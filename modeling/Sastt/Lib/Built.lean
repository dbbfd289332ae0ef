import Sastt.Lib.Method

/-!
# Methods built from primitives

A long program is made of a few primitive methods by sequence, branching,
loops and `try … except`. `Built` says so of a method, once; whatever is
closed under these constructs and holds of the primitives then holds of the
method, so a second property costs a lemma about the primitives only.

Two such properties are given here. A frame of the primitives is a frame of
the method (`Built.within`). And an exception that no handler of the program
catches ends it: if the primitives reach a certain kind of state only by
raising this exception, so does the method (`Built.error_of_halted`).
-/

namespace Method

variable {ε σ α β : Type}

/-- **The method is built from the primitives**, and its handlers are all of
the given kind. -/
inductive Built (Primitive : ∀ α : Type, Method ε σ α → Prop) (Handler : (ε → Bool) → Prop) :
    ∀ {α : Type}, Method ε σ α → Prop
  | primitive {α : Type} {m : Method ε σ α} (h : Primitive α m) : Built Primitive Handler m
  | pure {α : Type} (a : α) : Built Primitive Handler (pure a : Method ε σ α)
  | read : Built Primitive Handler read
  | ofExcept {α : Type} (x : Except ε α) : Built Primitive Handler (ofExcept x)
  | bind {α β : Type} {m : Method ε σ α} {k : α → Method ε σ β} (hm : Built Primitive Handler m)
      (hk : ∀ a, Built Primitive Handler (k a)) : Built Primitive Handler (m >>= k)
  | catchIf {α : Type} {m : Method ε σ α} {handles : ε → Bool} {k : ε → Method ε σ α}
      (hh : Handler handles) (hm : Built Primitive Handler m)
      (hk : ∀ e, Built Primitive Handler (k e)) : Built Primitive Handler (m.catchIf handles k)

variable {Primitive : ∀ α : Type, Method ε σ α → Prop} {Handler : (ε → Bool) → Prop}

theorem Built.throw (e : ε) : Built Primitive Handler (throw e : Method ε σ α) :=
  .ofExcept (.error e)

theorem Built.forEach {xs : List α} {body : α → Method ε σ Unit}
    (h : ∀ x, Built Primitive Handler (body x)) : Built Primitive Handler (forEach xs body) := by
  induction xs with
  | nil => exact .pure ()
  | cons x xs ih => exact .bind (h x) (fun _ => ih)

theorem Built.mapEach {xs : List α} {body : α → Method ε σ β}
    (h : ∀ x, Built Primitive Handler (body x)) : Built Primitive Handler (mapEach xs body) := by
  induction xs with
  | nil => exact .pure []
  | cons x xs ih => exact .bind (h x) (fun _ => .bind ih (fun _ => .pure _))

/-- **A frame of the primitives** is one of what is built from them. -/
theorem Built.within {R : σ → σ → Prop} [Std.Refl R] [IsTrans σ R] {m : Method ε σ α}
    (h : Built Primitive Handler m) (hprimitive : ∀ α m, Primitive α m → Within R m) :
    Within R m := by
  induction h with
  | primitive h => exact hprimitive _ _ h
  | pure a => exact within_pure a
  | read => exact within_read
  | ofExcept x => exact within_ofExcept x
  | bind _ _ ihm ihk => exact within_bind ihm ihk
  | catchIf _ _ _ ihm ihk => exact within_catchIf ihm ihk

/-- **An exception nobody catches.** If the primitives halt only by raising `e`,
and no handler catches `e`, then what is built from them halts only by raising
`e`. -/
theorem Built.error_of_halted {halted : σ → Prop} {e : ε} {m : Method ε σ α}
    (h : Built Primitive Handler m) (hhandler : ∀ handles, Handler handles → handles e = false)
    (hprimitive : ∀ α (m : Method ε σ α), Primitive α m → ∀ s, ¬ halted s → halted (m s).2 →
      (m s).1 = .error e) {s : σ} (hs : ¬ halted s) (ht : halted (m s).2) :
    (m s).1 = .error e := by
  induction h generalizing s with
  | primitive h => exact hprimitive _ _ h s hs ht
  | pure a => exact absurd ht hs
  | read => exact absurd ht hs
  | ofExcept x => exact absurd ht hs
  | @bind _ _ m k _ _ ihm ihk =>
    rcases hrun : m s with ⟨e' | a, t⟩
    · rw [bind_of_error hrun] at ht ⊢
      have hraised := ihm hs (by rwa [hrun])
      rw [hrun] at hraised
      cases hraised
      rfl
    · rw [bind_of_ok hrun] at ht ⊢
      refine ihk a (fun hhalted => ?_) ht
      have hraised := ihm hs (by rwa [hrun])
      rw [hrun] at hraised
      cases hraised
  | @catchIf _ m handles k hh _ _ ihm ihk =>
    unfold Method.catchIf at ht ⊢
    rcases hrun : m s with ⟨e' | a, t⟩ <;> rw [hrun] at ht <;> dsimp only at ht ⊢
    · have hraised : halted t → e' = e := by
        intro hhalted
        have h := ihm hs (by rwa [hrun])
        rw [hrun] at h
        cases h
        rfl
      by_cases hcaught : handles e' = true
      · rw [if_pos hcaught] at ht ⊢
        refine ihk e' (fun hhalted => ?_) ht
        rw [hraised hhalted, hhandler handles hh] at hcaught
        cases hcaught
      · rw [if_neg hcaught] at ht ⊢
        rw [hraised ht]
    · have hraised := ihm hs (by rwa [hrun])
      rw [hrun] at hraised
      cases hraised

end Method
