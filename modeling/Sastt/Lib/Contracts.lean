import Sastt.Lib.Programs

/-!
# Contracts

A client that shares a store may have some part of it to itself: nobody else
writes there. What it knows of that part stays true whatever the others do, so
the replies to its commands are no surprise, and what it has left behind when
it returns can be read off its program alone.

A `Contract` is a discipline that also says what a client may expect as a
reply, knowing what it knows. `Program.Keeps` is the weakest precondition
under a contract: the commands are allowed and the end is as promised,
provided that the replies are the expected ones. `SharedStore.Ensures` lifts it to the clients
of a store, each under a contract of its own, and the lemmas below it say when
an event keeps it.
-/

/-- **A contract**: a discipline, and which replies a client expects, knowing
what it knows. -/
structure Contract (C : Type) (Reply : C → Type) (K : Type) extends Discipline C Reply K where
  expects : K → (c : C) → Reply c → Prop

/-- The contract as far as some of the commands are concerned. -/
def Contract.pull {C C' : Type} {Reply : C → Type} {Reply' : C' → Type} {K : Type}
    (d : Contract C' Reply' K) (f : C → C') (reply : ∀ c, Reply' (f c) ≃ Reply c) :
    Contract C Reply K where
  allows known c := d.allows known (f c)
  learn known c r := d.learn known (f c) ((reply c).symm r)
  expects known c r := d.expects known (f c) ((reply c).symm r)

namespace Program

variable {C : Type} {Reply : C → Type} {K α β : Type} {d : Contract C Reply K}

/-- **The weakest precondition** under a contract: as long as the replies are
expected ones, the commands are allowed, and what the program returns, with
what is known then, satisfies `Q`. -/
def Keeps (d : Contract C Reply K) (Q : K → α → Prop) : Program C Reply α → K → Prop
  | ret a, known => Q known a
  | call c k, known =>
    d.allows known c ∧ ∀ r, d.expects known c r → (k r).Keeps d Q (d.learn known c r)

theorem Keeps.mono {Q Q' : K → α → Prop} {p : Program C Reply α} {known : K}
    (h : p.Keeps d Q known) (hQ : ∀ known a, Q known a → Q' known a) : p.Keeps d Q' known := by
  induction p generalizing known with
  | ret a => exact hQ known a h
  | call c k ih => exact ⟨h.1, fun r hr => ih r (h.2 r hr)⟩

theorem keeps_pure {Q : K → α → Prop} {a : α} {known : K} (h : Q known a) :
    (pure a : Program C Reply α).Keeps d Q known := h

theorem keeps_issue {c : C} {Q : K → Reply c → Prop} {known : K} (hc : d.allows known c)
    (h : ∀ r, d.expects known c r → Q (d.learn known c r) r) :
    (issue c : Program C Reply (Reply c)).Keeps d Q known := ⟨hc, h⟩

/-- **Sequencing.** -/
theorem keeps_bind {Q : K → β → Prop} {p : Program C Reply α} {k : α → Program C Reply β}
    {known : K} (h : p.Keeps d (fun known a => (k a).Keeps d Q known) known) :
    (p >>= k).Keeps d Q known := by
  show (p.bind k).Keeps d Q known
  induction p generalizing known with
  | ret a => exact h
  | call c next ih => exact ⟨h.1, fun r hr => ih r (h.2 r hr)⟩

/-- **A program among others** keeps the contract as it keeps its part of it. -/
theorem keeps_embed {C' : Type} {Reply' : C' → Type} {d : Contract C' Reply' K} {f : C → C'}
    {reply : ∀ c, Reply' (f c) ≃ Reply c} {Q : K → α → Prop} {p : Program C Reply α} {known : K}
    (h : p.Keeps (d.pull f reply) Q known) : (p.embed f reply).Keeps d Q known := by
  induction p generalizing known with
  | ret a => exact h
  | call c k ih =>
    refine ⟨h.1, fun r hr => ih (reply c r) ?_⟩
    have hnext := h.2 (reply c r)
    simp only [Contract.pull, Equiv.symm_apply_apply] at hnext
    exact hnext hr

end Program

namespace SharedStore

variable {C : Type} {Reply : C → Type} {S A E K : Type} {server : Server C Reply S E}
  {programs : A → Program C Reply Unit} {s : SharedStore C Reply S}
  {d : ℕ → Contract C Reply K} {knows : S → ℕ → K → Prop} {Q : ℕ → K → Prop}

/-- **Every client knows something true** about the store, and under its
contract it ends with `Q`. -/
def Ensures (d : ℕ → Contract C Reply K) (knows : S → ℕ → K → Prop) (Q : ℕ → K → Prop)
    (s : SharedStore C Reply S) : Prop :=
  ∀ client p, s.clients client = some p →
    ∃ known, knows s.store client known ∧ p.Keeps (d client) (fun known _ => Q client known) known

/-- The end of a client that has returned. -/
theorem Ensures.returned (h : s.Ensures d knows Q) {client : ℕ}
    (hreturned : s.clients client = some (.ret ())) :
    ∃ known, knows s.store client known ∧ Q client known := h client _ hreturned

/-- A command that is issued is one that is allowed. -/
theorem Ensures.issued (h : s.Ensures d knows Q) {e : ClientEvent A E} {client : ℕ}
    {environment : E} {c : C} (hi : s.issued e = some (client, environment, c)) :
    ∃ known, knows s.store client known ∧ (d client).allows known c := by
  obtain ⟨-, k, hclient⟩ := clients_of_issued hi
  obtain ⟨known, hknows, hallows, -⟩ := h client _ hclient
  exact ⟨known, hknows, hallows⟩

theorem Ensures.update (h : s.Ensures d knows Q) {store : S} {client : ℕ}
    {next : Option (Program C Reply Unit)}
    (hnext : ∀ p, next = some p → ∃ known, knows store client known
      ∧ p.Keeps (d client) (fun known _ => Q client known) known)
    (hothers : ∀ client' known, client' ≠ client → knows s.store client' known →
      knows store client' known) :
    (⟨store, Function.update s.clients client next⟩ : SharedStore C Reply S).Ensures d knows Q := by
  intro client' p hp
  by_cases hclient : client' = client
  · subst hclient
    exact hnext p ((Function.update_self client' next s.clients).symm.trans hp)
  · obtain ⟨known, hknows, hkeeps⟩ :=
      h client' p ((Function.update_of_ne hclient next s.clients).symm.trans hp)
    exact ⟨known, hothers client' known hclient hknows, hkeeps⟩

/-- A client that starts has to know enough for its program. -/
theorem Ensures.start (h : s.Ensures d knows Q) {client : ℕ} {program : A}
    (hprogram : ∃ known, knows s.store client known
      ∧ (programs program).Keeps (d client) (fun known _ => Q client known) known) :
    (s.step server programs (.start client program)).Ensures d knows Q := by
  unfold SharedStore.step
  dsimp only
  split
  · exact h
  · refine h.update (fun p hp => ?_) (fun _ _ _ hknows => hknows)
    cases hp
    exact hprogram

theorem Ensures.crash (h : s.Ensures d knows Q) (client : ℕ) :
    (s.step server programs (.crash client : ClientEvent A E)).Ensures d knows Q :=
  h.update nofun (fun _ _ _ hknows => hknows)

/-- **A command** keeps the contracts if the client that issues it, being allowed
to, gets an expected reply and knows what it has learnt, and the others know what
they knew. -/
theorem Ensures.command (h : s.Ensures d knows Q) {client : ℕ} {environment : E}
    (hself : ∀ c k known, s.clients client = some (.call c k) → knows s.store client known →
      (d client).allows known c →
      (d client).expects known c (server environment client s.store c).2
        ∧ knows (server environment client s.store c).1 client
          ((d client).learn known c (server environment client s.store c).2))
    (hothers : ∀ c k client' known, s.clients client = some (.call c k) → client' ≠ client →
      knows s.store client' known → knows (server environment client s.store c).1 client' known) :
    (s.step server programs (.command client environment)).Ensures d knows Q := by
  unfold SharedStore.step
  dsimp only
  split
  · next c k hc =>
    refine h.update (fun p hp => ?_) (fun client' known => hothers c k client' known hc)
    cases hp
    obtain ⟨known, hknows, hkeeps⟩ := h client _ hc
    obtain ⟨hexpects, hlearnt⟩ := hself c k known hc hknows hkeeps.1
    exact ⟨_, hlearnt, hkeeps.2 _ hexpects⟩
  · exact h

end SharedStore
