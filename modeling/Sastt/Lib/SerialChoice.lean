import Mathlib.Data.List.Basic
import Mathlib.Data.Set.Insert

/-!
# Choosing one after another

Choosers come one after another, and each takes what it likes best among what
it accepts and what is left (`Serial`). What they end up with can be said
without the order of events: nobody has what it does not accept, nobody shares,
and what a chooser would rather have belongs to one that came before
(`Stable`). The two say the same of every list of picks (`Serial.stable`,
`Stable.serial`), and there is at most one such list (`Serial.unique`).
-/

namespace Sastt

section

variable {α β : Type}

/-- A best pick among what is accepted and left: none is picked only when
nothing is. -/
def Best (accepts : α → Prop) (prefers : α → α → Prop) (taken : Set α) : Option α → Prop
  | none => ∀ a, accepts a → a ∈ taken
  | some a => accepts a ∧ a ∉ taken ∧ ∀ a', accepts a' → a' ∉ taken → a' ≠ a → prefers a a'

/-- What is taken after a pick. -/
def takenBy (taken : Set α) (pick : Option α) : Set α := {a | a ∈ taken ∨ pick = some a}

/-- **Each chooser in turn takes what it likes best.** -/
inductive Serial (accepts : β → α → Prop) (prefers : β → α → α → Prop) :
    Set α → List β → List (Option α) → Prop
  | nil (taken : Set α) : Serial accepts prefers taken [] []
  | cons {taken : Set α} {b : β} {bs : List β} {pick : Option α} {picks : List (Option α)}
      (hbest : Best (accepts b) (prefers b) taken pick)
      (hrest : Serial accepts prefers (takenBy taken pick) bs picks) :
      Serial accepts prefers taken (b :: bs) (pick :: picks)

/-- **Nobody has reason to complain**: what a chooser would rather have
belongs to one that came before. -/
structure Stable (accepts : β → α → Prop) (prefers : β → α → α → Prop) (taken : Set α)
    (bs : List β) (picks : List (Option α)) : Prop where
  length : picks.length = bs.length
  accepted : ∀ (i : ℕ) (b : β) (a : α), bs[i]? = some b → picks[i]? = some (some a) →
    accepts b a ∧ a ∉ taken
  distinct : ∀ (i j : ℕ) (a : α), picks[i]? = some (some a) → picks[j]? = some (some a) → i = j
  unenvied : ∀ (i : ℕ) (b : β) (a : α), bs[i]? = some b → accepts b a → a ∉ taken →
    (∀ a', picks[i]? = some (some a') → prefers b a a') → ∃ j < i, picks[j]? = some (some a)

variable {accepts : β → α → Prop} {prefers : β → α → α → Prop} {taken taken' : Set α}
  {b : β} {bs : List β} {pick : Option α} {picks picks' : List (Option α)}

/-- What is not accepted may be taken or not. -/
theorem Best.congr (h : Best (accepts b) (prefers b) taken pick)
    (hsame : ∀ a, accepts b a → (a ∈ taken ↔ a ∈ taken')) :
    Best (accepts b) (prefers b) taken' pick := by
  cases pick with
  | none => exact fun a ha => (hsame a ha).mp (h a ha)
  | some a =>
    obtain ⟨haccepts, hfree, hbest⟩ := h
    refine ⟨haccepts, fun hmem => hfree ((hsame a haccepts).mpr hmem), fun a' ha' hfree' => ?_⟩
    exact hbest a' ha' (fun hmem => hfree' ((hsame a' ha').mp hmem))

/-- Picks of which each is the best when its turn comes are serial. -/
theorem Serial.of_best (hlength : picks.length = bs.length)
    (h : ∀ (i : ℕ) b, bs[i]? = some b → ∃ pick, picks[i]? = some pick
      ∧ Best (accepts b) (prefers b) {a | a ∈ taken ∨ ∃ j < i, picks[j]? = some (some a)} pick) :
    Serial accepts prefers taken bs picks := by
  induction bs generalizing taken picks with
  | nil =>
    obtain rfl : picks = [] := List.length_eq_zero_iff.mp hlength
    exact .nil taken
  | cons b bs ih =>
    obtain _ | ⟨pick, picks⟩ := picks
    · exact absurd hlength (Nat.succ_ne_zero _).symm
    obtain ⟨_, hpick, hbest⟩ := h 0 b rfl
    obtain rfl := Option.some.inj hpick
    refine .cons (hbest.congr (fun a _ => ?_)) (ih (Nat.succ_injective hlength) ?_)
    · exact or_iff_left (fun ⟨j, hj, _⟩ => Nat.not_lt_zero j hj)
    · intro i b' hb'
      obtain ⟨pick', hpick', hbest'⟩ := h (i + 1) b' hb'
      refine ⟨pick', hpick', hbest'.congr (fun a _ => ?_)⟩
      -- what was picked so far was picked first, or later
      show a ∈ taken ∨ _ ↔ (a ∈ taken ∨ pick = some a) ∨ _
      rw [or_assoc]
      refine or_congr_right ⟨?_, ?_⟩
      · rintro ⟨j, hj, hmem⟩
        cases j with
        | zero => exact Or.inl (Option.some.inj hmem)
        | succ j => exact Or.inr ⟨j, Nat.lt_of_succ_lt_succ hj, hmem⟩
      · rintro (rfl | ⟨j, hj, hmem⟩)
        · exact ⟨0, Nat.succ_pos i, rfl⟩
        · exact ⟨j + 1, Nat.succ_lt_succ hj, hmem⟩

/-- What was taken is not picked again. -/
theorem Serial.notMem (h : Serial accepts prefers taken bs picks) :
    ∀ a, some a ∈ picks → a ∉ taken := by
  induction h with
  | nil taken => exact fun a ha => nomatch ha
  | @cons taken b bs pick picks hbest _ ih =>
    intro a ha
    rcases List.mem_cons.mp ha with rfl | ha
    · exact hbest.2.1
    · exact fun hmem => ih a ha (Or.inl hmem)

/-- **Serial picks are stable**, if no chooser prefers two things to each
other. -/
theorem Serial.stable (hasymm : ∀ b a a', prefers b a a' → ¬ prefers b a' a)
    (h : Serial accepts prefers taken bs picks) : Stable accepts prefers taken bs picks := by
  induction h with
  | nil taken => exact ⟨rfl, nofun, nofun, nofun⟩
  | @cons taken b bs pick picks hbest hrest ih =>
    refine ⟨congrArg (· + 1) ih.length, fun i b' a hb ha => ?_, fun i j a hi hj => ?_,
      fun i b' a hb ha hfree hlikes => ?_⟩
    · cases i with
      | zero =>
        cases hb
        cases ha
        exact ⟨hbest.1, hbest.2.1⟩
      | succ i =>
        obtain ⟨haccepts, hfree⟩ := ih.accepted i b' a hb ha
        exact ⟨haccepts, fun hmem => hfree (Or.inl hmem)⟩
    · cases i with
      | zero =>
        cases hi
        cases j with
        | zero => rfl
        | succ j => exact absurd (Or.inr rfl) (hrest.notMem a (List.mem_of_getElem? hj))
      | succ i =>
        cases j with
        | zero =>
          cases hj
          exact absurd (Or.inr rfl) (hrest.notMem a (List.mem_of_getElem? hi))
        | succ j => exact congrArg (· + 1) (ih.distinct i j a hi hj)
    · cases i with
      | zero =>
        cases hb
        cases pick with
        | none => exact absurd (hbest a ha) hfree
        | some a' =>
          have hlike := hlikes a' rfl
          have hne : a ≠ a' := by
            rintro rfl
            exact hasymm _ _ _ hlike hlike
          exact absurd hlike (hasymm _ _ _ (hbest.2.2 a ha hfree hne))
      | succ i =>
        by_cases hpick : pick = some a
        · exact ⟨0, Nat.succ_pos i, by rw [List.getElem?_cons_zero, hpick]⟩
        · obtain ⟨j, hj, hmem⟩ := ih.unenvied i b' a hb ha
            (fun hmem => hmem.elim hfree hpick) hlikes
          exact ⟨j + 1, Nat.succ_lt_succ hj, hmem⟩

/-- What is picked is accepted by who picks it. -/
theorem Stable.exists_accepted (h : Stable accepts prefers taken bs picks) {a : α}
    (ha : some a ∈ picks) : ∃ b ∈ bs, accepts b a := by
  obtain ⟨i, hi, hpick⟩ := List.mem_iff_getElem.mp ha
  have hb : i < bs.length := h.length ▸ hi
  refine ⟨bs[i], List.getElem_mem hb, (h.accepted i bs[i] a (List.getElem?_eq_getElem hb) ?_).1⟩
  rw [List.getElem?_eq_getElem hi, hpick]

/-- **Stable picks are serial**, if every chooser can compare what it
accepts. -/
theorem Stable.serial (htotal : ∀ b a a', accepts b a → accepts b a' → a ≠ a' →
      prefers b a a' ∨ prefers b a' a)
    (h : Stable accepts prefers taken bs picks) : Serial accepts prefers taken bs picks := by
  induction bs generalizing taken picks with
  | nil =>
    obtain rfl : picks = [] := List.length_eq_zero_iff.mp h.length
    exact .nil taken
  | cons b bs ih =>
    obtain _ | ⟨pick, picks⟩ := picks
    · exact absurd h.length (Nat.succ_ne_zero _).symm
    refine .cons ?_ (ih ⟨Nat.succ_injective h.length, fun i b' a hb ha => ?_, fun i j a hi hj => ?_,
      fun i b' a hb ha hfree hlikes => ?_⟩)
    · cases pick with
      | none =>
        intro a ha
        by_contra hfree
        obtain ⟨j, hj, -⟩ := h.unenvied 0 b a rfl ha hfree nofun
        exact absurd hj (Nat.not_lt_zero j)
      | some a =>
        obtain ⟨haccepts, hfree⟩ := h.accepted 0 b a rfl rfl
        refine ⟨haccepts, hfree, fun a' ha' hfree' hne => ?_⟩
        refine (htotal b a a' haccepts ha' hne.symm).resolve_right (fun hrather => ?_)
        obtain ⟨j, hj, -⟩ := h.unenvied 0 b a' rfl ha' hfree' (fun a'' ha'' => by
          cases ha''
          exact hrather)
        exact absurd hj (Nat.not_lt_zero j)
    · obtain ⟨haccepts, hfree⟩ := h.accepted (i + 1) b' a hb ha
      refine ⟨haccepts, fun hmem => hmem.elim hfree (fun hpick => ?_)⟩
      exact absurd (h.distinct 0 (i + 1) a (congrArg some hpick) ha) (Nat.succ_ne_zero i).symm
    · exact Nat.succ_injective (h.distinct (i + 1) (j + 1) a hi hj)
    · obtain ⟨j, hj, hmem⟩ := h.unenvied (i + 1) b' a hb ha (fun hmem => hfree (Or.inl hmem)) hlikes
      cases j with
      | zero => exact absurd (Or.inr (Option.some.inj hmem)) hfree
      | succ j => exact ⟨j, Nat.lt_of_succ_lt_succ hj, hmem⟩

/-- There is one best pick at most. -/
theorem Best.unique {accepts : α → Prop} {prefers : α → α → Prop} {pick' : Option α}
    (hasymm : ∀ a a', prefers a a' → ¬ prefers a' a)
    (h : Best accepts prefers taken pick) (h' : Best accepts prefers taken pick') :
    pick = pick' := by
  cases pick with
  | none =>
    cases pick' with
    | none => rfl
    | some a' => exact absurd (h a' h'.1) h'.2.1
  | some a =>
    cases pick' with
    | none => exact absurd (h' a h.1) h.2.1
    | some a' =>
      by_contra hne
      replace hne : a ≠ a' := fun heq => hne (congrArg some heq)
      exact hasymm a a' (h.2.2 a' h'.1 h'.2.1 hne.symm) (h'.2.2 a h.1 h.2.1 hne)

/-- **There is one way to choose at most.** -/
theorem Serial.unique (hasymm : ∀ b a a', prefers b a a' → ¬ prefers b a' a)
    (h : Serial accepts prefers taken bs picks) (h' : Serial accepts prefers taken bs picks') :
    picks = picks' := by
  induction h generalizing picks' with
  | nil taken =>
    cases h'
    rfl
  | @cons taken b bs pick picks hbest _ ih =>
    cases h' with
    | cons hbest' hrest' =>
      obtain rfl := hbest.unique (hasymm b) hbest'
      rw [ih hrest']

end

end Sastt
