import Mathlib.Data.List.Nodup
import Mathlib.Data.Set.Function

/-!
# Dictionaries

A dictionary that remembers the order of insertion is a list of keys and values
in which no key occurs twice.
-/

variable {κ ν : Type} {entries : List (κ × ν)} {key : κ} {value : ν}

/-- **What is looked up is what is in it.** -/
theorem lookup_eq_some_iff_mem [BEq κ] [LawfulBEq κ] (h : (entries.map Prod.fst).Nodup) :
    entries.lookup key = some value ↔ (key, value) ∈ entries := by
  have hmem : ∀ v, entries.lookup key = some v → (key, v) ∈ entries := by
    intro v hlookup
    obtain ⟨before, after, rfl, -⟩ := List.lookup_eq_some_iff.mp hlookup
    exact List.mem_append_right _ List.mem_cons_self
  refine ⟨hmem value, fun hvalue => ?_⟩
  cases hlookup : entries.lookup key with
  | none => simpa using List.lookup_eq_none_iff.mp hlookup (key, value) hvalue
  | some v =>
    have hsame := List.inj_on_of_nodup_map h (hmem v hlookup) hvalue rfl
    exact congrArg (fun entry => some entry.2) hsame

/-- A key that is set stays the only one. -/
theorem nodup_set [DecidableEq κ] (h : (entries.map Prod.fst).Nodup) (key : κ) (value : ν) :
    ((entries.filter (·.1 ≠ key) ++ [(key, value)]).map Prod.fst).Nodup := by
  rw [List.map_append]
  refine List.nodup_append.mpr ⟨h.sublist (List.filter_sublist.map _), List.nodup_singleton _,
    fun k hk k' hk' heq => ?_⟩
  obtain ⟨entry, hentry, rfl⟩ := List.mem_map.mp hk
  rw [List.map_singleton, List.mem_singleton] at hk'
  exact of_decide_eq_true (List.mem_filter.mp hentry).2 (heq.trans hk')

/-! ## Renaming -/

/-- `entries.get(x, x)`: what has no new name keeps its own. -/
def renameBy [BEq κ] (entries : List (κ × κ)) (x : κ) : κ := (entries.lookup x).getD x

section

variable [BEq κ] [LawfulBEq κ] {entries : List (κ × κ)}

theorem renameBy_of_mem (h : (entries.map Prod.fst).Nodup) {e : κ × κ} (he : e ∈ entries) :
    renameBy entries e.1 = e.2 := by
  rw [renameBy, (lookup_eq_some_iff_mem h).mpr he]
  rfl

theorem renameBy_of_notMem {x : κ} (hx : x ∉ entries.map Prod.fst) :
    renameBy entries x = x := by
  rw [renameBy, List.lookup_eq_none_iff.mpr (fun e he => ?_)]
  · rfl
  · exact bne_iff_ne.mpr (fun heq => hx (heq ▸ List.mem_map_of_mem he))

/-- **What has different names keeps different names exactly when no name is given
to another and left to its bearer.** -/
theorem injOn_renameBy_iff (hkeys : (entries.map Prod.fst).Nodup)
    (hvalues : (entries.map Prod.snd).Nodup) {names : Set κ} :
    Set.InjOn (renameBy entries) names
      ↔ ∀ e ∈ entries, e.1 ∈ names → e.2 ∈ names → e.2 ∈ entries.map Prod.fst := by
  constructor
  · intro hinj e he hkey hvalue
    by_contra hnone
    have hsame : e.1 = e.2 := hinj hkey hvalue
      ((renameBy_of_mem hkeys he).trans (renameBy_of_notMem hnone).symm)
    exact hnone (hsame ▸ List.mem_map_of_mem he)
  · -- what is renamed is not confused with what keeps its name
    have hmixed : (∀ e ∈ entries, e.1 ∈ names → e.2 ∈ names → e.2 ∈ entries.map Prod.fst) →
        ∀ e ∈ entries, e.1 ∈ names → ∀ y ∈ names, y ∉ entries.map Prod.fst →
          renameBy entries e.1 ≠ renameBy entries y := by
      intro hall e he hkey y hy hnone heq
      rw [renameBy_of_mem hkeys he, renameBy_of_notMem hnone] at heq
      exact hnone (heq ▸ hall e he hkey (heq ▸ hy))
    intro hall x hx y hy heq
    by_cases hkey : x ∈ entries.map Prod.fst
    · obtain ⟨e, he, rfl⟩ := List.mem_map.mp hkey
      by_cases hkey' : y ∈ entries.map Prod.fst
      · obtain ⟨e', he', rfl⟩ := List.mem_map.mp hkey'
        rw [renameBy_of_mem hkeys he, renameBy_of_mem hkeys he'] at heq
        rw [List.inj_on_of_nodup_map hvalues he he' heq]
      · exact absurd heq (hmixed hall e he hx y hy hkey')
    · by_cases hkey' : y ∈ entries.map Prod.fst
      · obtain ⟨e', he', rfl⟩ := List.mem_map.mp hkey'
        exact absurd heq.symm (hmixed hall e' he' hy x hx hkey)
      · rwa [renameBy_of_notMem hkey, renameBy_of_notMem hkey'] at heq

end
