import Sastt.Lib.Programs

/-!
# Noninterference

One group of users does not interfere with another when what the others are
answered does not depend on what the group does: take its events out of the
run, and the answers to everybody else stay what they were.

The proof of such a statement is an unwinding. A relation ties the state of
the full run to the state of the run without the group, and three facts about
single steps are enough: an event that both runs make keeps the states
related, it is answered the same in both, and an event of the group leaves
the state it happens in related to the state of the run that misses it
(`Unwinding.trace_eq`).

`CallSystem` is what the events of such a run usually are: callers at a
shared store, each of which works through its calls one after another, and
every call is a program of atomic commands. There the three facts follow from
the same facts about single commands (`CallSystem.unwinding`).
-/

section Traces

variable {σ ε O : Type}

/-- **What a run answers**: every event with its answer. -/
def trace (step : σ → ε → σ) (answer : σ → ε → O) : σ → List ε → List (ε × O)
  | _, [] => []
  | s, e :: events => (e, answer s e) :: trace step answer (step s e) events

/-- What a run answers, event by event from its end. -/
theorem trace_append (step : σ → ε → σ) (answer : σ → ε → O) (s : σ) (events : List ε) (e : ε) :
    trace step answer s (events ++ [e])
      = trace step answer s events ++ [(e, answer (events.foldl step s) e)] := by
  induction events generalizing s with
  | nil => rfl
  | cons e' events ih => exact congrArg _ (ih (step s e'))

/-- **An unwinding up to `agree`**: `R` relates the run to the one that has the
kept events only, as long as its events meet `C`. What happened before may be
spoken of. -/
structure LaxUnwinding (step : σ → ε → σ) (answer : σ → ε → O) (kept : ε → Prop)
    (agree : O → O → Prop) (C : List ε → σ → ε → Prop) (R : List ε → σ → σ → Prop) : Prop where
  keeps : ∀ past s t e, R past s t → C past s e → kept e → R (past ++ [e]) (step s e) (step t e)
  answers : ∀ past s t e, R past s t → C past s e → kept e → agree (answer s e) (answer t e)
  hides : ∀ past s t e, R past s t → C past s e → ¬ kept e → R (past ++ [e]) (step s e) t

/-- **The kept events are answered nearly as if the others had not
happened.** -/
theorem LaxUnwinding.forall₂_trace {step : σ → ε → σ} {answer : σ → ε → O} {kept : ε → Prop}
    [DecidablePred kept] {agree : O → O → Prop} {C : List ε → σ → ε → Prop}
    {R : List ε → σ → σ → Prop} (h : LaxUnwinding step answer kept agree C R) (past : List ε)
    {s t : σ} {events : List ε} (hR : R past s t)
    (hC : ∀ pre e, pre ++ [e] <+: events → C (past ++ pre) (pre.foldl step s) e) :
    List.Forall₂ (fun a b => a.1 = b.1 ∧ agree a.2 b.2)
      ((trace step answer s events).filter (fun a => kept a.1))
      (trace step answer t (events.filter kept)) := by
  induction events generalizing past s t with
  | nil => exact .nil
  | cons e events ih =>
    have hfirst : C past s e := by
      have hnow := hC [] e (List.prefix_append [e] events)
      rwa [List.append_nil] at hnow
    have hrest : ∀ pre e', pre ++ [e'] <+: events →
        C (past ++ [e] ++ pre) (pre.foldl step (step s e)) e' := by
      intro pre e' hpre
      have hlater := hC (e :: pre) e' (List.cons_prefix_cons.mpr ⟨rfl, hpre⟩)
      rwa [List.append_cons] at hlater
    show List.Forall₂ _
      (((e, answer s e) :: trace step answer (step s e) events).filter (fun a => kept a.1)) _
    by_cases hkept : kept e
    · rw [List.filter_cons_of_pos (by simpa using hkept),
        List.filter_cons_of_pos (by simpa using hkept)]
      exact .cons ⟨rfl, h.answers past s t e hR hfirst hkept⟩
        (ih (past ++ [e]) (h.keeps past s t e hR hfirst hkept) hrest)
    · rw [List.filter_cons_of_neg (by simpa using hkept),
        List.filter_cons_of_neg (by simpa using hkept)]
      exact ih (past ++ [e]) (h.hides past s t e hR hfirst hkept) hrest

/-- **An unwinding**: `R` relates the run to the one that has the kept events
only, as long as its events meet `C`. -/
structure Unwinding (step : σ → ε → σ) (answer : σ → ε → O) (kept : ε → Prop)
    (C : σ → ε → Prop) (R : σ → σ → Prop) : Prop where
  keeps : ∀ s t e, R s t → C s e → kept e → R (step s e) (step t e)
  answers : ∀ s t e, R s t → C s e → kept e → answer s e = answer t e
  hides : ∀ s t e, R s t → C s e → ¬ kept e → R (step s e) t

/-- **The kept events are answered as if the others had not happened.** -/
theorem Unwinding.trace_eq {step : σ → ε → σ} {answer : σ → ε → O} {kept : ε → Prop}
    [DecidablePred kept] {C : σ → ε → Prop} {R : σ → σ → Prop}
    (h : Unwinding step answer kept C R) {s t : σ} {events : List ε} (hR : R s t)
    (hC : EachStep step C s events) :
    (trace step answer s events).filter (fun a => kept a.1)
      = trace step answer t (events.filter kept) := by
  have hlax : LaxUnwinding step answer kept Eq (fun _ => C) (fun _ => R) :=
    ⟨fun _ => h.keeps, fun _ => h.answers, fun _ => h.hides⟩
  have hpairs := hlax.forall₂_trace [] hR hC
  exact List.forall₂_eq_eq_eq ▸ hpairs.imp (fun _ _ hab => Prod.ext hab.1 hab.2)

end Traces

/-! ## Callers at a store -/

/-- The program after its next command, and the store after it. -/
def Program.advance {C : Type} {Reply : C → Type} {S α : Type}
    (server : S → (c : C) → S × Reply c) : Program C Reply α → S → S × Program C Reply α
  | .ret a, s => (s, .ret a)
  | .call c k, s => ((server s c).1, k (server s c).2)

/-- What the program has returned, if it has. -/
def Program.returned {C : Type} {Reply : C → Type} {α : Type} : Program C Reply α → Option α
  | .ret a => some a
  | .call _ _ => none

/-- What is left of the program, if anything is. -/
def Program.pending {C : Type} {Reply : C → Type} {α : Type} :
    Program C Reply α → Option (Program C Reply α)
  | .ret _ => none
  | .call c k => some (.call c k)

/-- **A store and the calls under way at it**, one for each caller at most. -/
structure CallSystem (K C : Type) (Reply : C → Type) (S α : Type) where
  store : S
  underWay : K → Option (Program C Reply α) := fun _ => none

/-- A caller's turn: it goes on with its call, or starts the given one if it
has none under way. -/
structure Turn (K A : Type) where
  caller : K
  call : A

namespace CallSystem

variable {K C : Type} {Reply : C → Type} {S A α : Type}

/-- The program whose turn it is. -/
def current (programs : K → A → Program C Reply α) (s : CallSystem K C Reply S α)
    (e : Turn K A) : Program C Reply α :=
  (s.underWay e.caller).getD (programs e.caller e.call)

/-- The command of the turn, if it has one. -/
def issued (programs : K → A → Program C Reply α) (s : CallSystem K C Reply S α)
    (e : Turn K A) : Option C :=
  match s.current programs e with
  | .ret _ => none
  | .call c _ => some c

/-- **One turn**: one command of the caller's call. -/
def step [DecidableEq K] (server : S → (c : C) → S × Reply c)
    (programs : K → A → Program C Reply α) (s : CallSystem K C Reply S α) (e : Turn K A) :
    CallSystem K C Reply S α :=
  let next := (s.current programs e).advance server s.store
  ⟨next.1, Function.update s.underWay e.caller next.2.pending⟩

/-- What the call returns, if it returns in this turn. -/
def result (server : S → (c : C) → S × Reply c) (programs : K → A → Program C Reply α)
    (s : CallSystem K C Reply S α) (e : Turn K A) : Option α :=
  ((s.current programs e).advance server s.store).2.returned

/-- **The full run and the run of the kept callers**: the stores are related,
the kept callers are at the same point of the same calls, and the calls under
way issue commands their callers may issue. -/
structure Related (kept : K → Prop) (allowed : K → C → Prop) (R : S → S → Prop)
    (s t : CallSystem K C Reply S α) : Prop where
  store : R s.store t.store
  same : ∀ k, kept k → s.underWay k = t.underWay k
  only : ∀ k p, s.underWay k = some p → p.Only (allowed k)

variable {server : S → (c : C) → S × Reply c} {programs : K → A → Program C Reply α}
  {kept : K → Prop} {allowed : K → C → Prop} {R : S → S → Prop}

theorem Related.refl {s : CallSystem K C Reply S α} (hR : R s.store s.store)
    (hnone : ∀ k, s.underWay k = none) : Related kept allowed R s s where
  store := hR
  same _ _ := rfl
  only k _ hp := absurd ((hnone k).symm.trans hp) nofun

/-- The program whose turn it is issues commands its caller may issue. -/
theorem only_current {s : CallSystem K C Reply S α}
    (honly : ∀ k p, s.underWay k = some p → p.Only (allowed k))
    (hprograms : ∀ k a, (programs k a).Only (allowed k)) (e : Turn K A) :
    (s.current programs e).Only (allowed e.caller) := by
  unfold current
  cases hp : s.underWay e.caller with
  | none => exact hprograms e.caller e.call
  | some p => exact honly e.caller p hp

/-- A kept caller goes on with the same program in both runs. -/
theorem Related.current_eq {s t : CallSystem K C Reply S α} (h : Related kept allowed R s t)
    (e : Turn K A) (hkept : kept e.caller) : s.current programs e = t.current programs e := by
  unfold current
  rw [h.same e.caller hkept]

/-- What is left of a program is as restricted as the program was. -/
theorem only_pending {p q : Program C Reply α} {known : C → Prop} (hp : p.Only known)
    (hq : p.pending = some q) : q.Only known := by
  cases p with
  | ret a => cases hq
  | call c k =>
    cases hq
    exact hp

/-- The turn's command meets the condition, if it has one. -/
def Meets (programs : K → A → Program C Reply α) (D : S → C → Prop)
    (s : CallSystem K C Reply S α) (e : Turn K A) : Prop :=
  ∀ c, s.issued programs e = some c → D s.store c

instance {D : S → C → Prop} [∀ s c, Decidable (D s c)] (s : CallSystem K C Reply S α)
    (e : Turn K A) : Decidable (Meets programs D s e) :=
  inferInstanceAs (Decidable (∀ c ∈ s.issued programs e, D s.store c))

/-- What one command does to the two stores, of a kept caller and of another
one. -/
structure CommandUnwinding (server : S → (c : C) → S × Reply c) (kept : K → Prop)
    (allowed : K → C → Prop) (D : S → C → Prop) (R : S → S → Prop) : Prop where
  keeps : ∀ k c s t, kept k → allowed k c → R s t → D s c → R (server s c).1 (server t c).1
  replies : ∀ k c s t, kept k → allowed k c → R s t → D s c → (server s c).2 = (server t c).2
  hides : ∀ k c s t, ¬ kept k → allowed k c → R s t → D s c → R (server s c).1 t

variable {D : S → C → Prop}

/-- A turn of a kept caller does the same in both runs. -/
theorem CommandUnwinding.advance (h : CommandUnwinding server kept allowed D R)
    {s t : CallSystem K C Reply S α} (hst : Related kept allowed R s t)
    (hprograms : ∀ k a, (programs k a).Only (allowed k)) {e : Turn K A}
    (hD : Meets programs D s e) (hkept : kept e.caller) :
    R ((s.current programs e).advance server s.store).1
        ((t.current programs e).advance server t.store).1
      ∧ ((s.current programs e).advance server s.store).2
        = ((t.current programs e).advance server t.store).2 := by
  have honly := only_current hst.only hprograms e
  rw [← hst.current_eq e hkept]
  unfold Meets issued at hD
  cases hp : s.current programs e with
  | ret a => exact ⟨hst.store, rfl⟩
  | call c k =>
    rw [hp] at honly hD
    refine ⟨h.keeps e.caller c _ _ hkept honly.1 hst.store (hD c rfl), ?_⟩
    exact congrArg k (h.replies e.caller c _ _ hkept honly.1 hst.store (hD c rfl))

/-- What is left after a turn is as restricted as before it. -/
theorem only_step [DecidableEq K] {s : CallSystem K C Reply S α} {e : Turn K A}
    (hcurrent : (s.current programs e).Only (allowed e.caller))
    (honly : ∀ k p, s.underWay k = some p → p.Only (allowed k)) (k : K) (p : Program C Reply α)
    (hp : (s.step server programs e).underWay k = some p) : p.Only (allowed k) := by
  by_cases hk : k = e.caller
  · subst hk
    have hself : (s.step server programs e).underWay e.caller
        = ((s.current programs e).advance server s.store).2.pending := Function.update_self ..
    rw [hself] at hp
    cases hq : s.current programs e with
    | ret a =>
      rw [hq] at hp
      cases hp
    | call c next =>
      rw [hq] at hp hcurrent
      exact only_pending (hcurrent.2 _) hp
  · have hother : (s.step server programs e).underWay k = s.underWay k :=
      Function.update_of_ne hk _ _
    exact honly k p (hother.symm.trans hp)

/-- **Commands that unwind make calls that unwind.** -/
theorem unwinding [DecidableEq K] (h : CommandUnwinding server kept allowed D R)
    (hprograms : ∀ k a, (programs k a).Only (allowed k)) :
    Unwinding (step server programs) (result server programs) (fun e : Turn K A => kept e.caller)
      (Meets programs D) (Related kept allowed R) where
  keeps s t e hst hD hkept := by
    have hadvance := h.advance hst hprograms hD hkept
    refine ⟨hadvance.1, fun k hk => ?_, only_step (only_current hst.only hprograms e) hst.only⟩
    show Function.update s.underWay e.caller _ k = Function.update t.underWay e.caller _ k
    by_cases hcaller : k = e.caller
    · subst hcaller
      rw [Function.update_self, Function.update_self, hadvance.2]
    · rw [Function.update_of_ne hcaller, Function.update_of_ne hcaller, hst.same k hk]
  answers s t e hst hD hkept := congrArg Program.returned (h.advance hst hprograms hD hkept).2
  hides s t e hst hD hkept := by
    have honly := only_current hst.only hprograms e
    refine ⟨?_, fun k hk => ?_, only_step honly hst.only⟩
    · show R ((s.current programs e).advance server s.store).1 t.store
      unfold Meets issued at hD
      cases hp : s.current programs e with
      | ret a => exact hst.store
      | call c next =>
        rw [hp] at honly hD
        exact h.hides e.caller c _ _ hkept honly.1 hst.store (hD c rfl)
    · have hcaller : k ≠ e.caller := fun heq => hkept (heq ▸ hk)
      exact (Function.update_of_ne hcaller _ _).trans (hst.same k hk)

end CallSystem
