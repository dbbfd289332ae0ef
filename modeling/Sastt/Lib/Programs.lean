import Mathlib.Data.List.Induction
import Mathlib.Logic.Equiv.Defs
import Mathlib.Logic.Function.Basic
import Mathlib.Order.Defs.Unbundled
import Sastt.Lib.Method

/-!
# Programs that share a store

A client of a server – a database, a key-value store – is a program that
issues commands and goes on with their replies. Each command is atomic, and
between two commands of one client anything may happen: commands of others,
and the death of the client itself. `Program` is such a program as a tree of
commands; `SharedStore` is the store with the clients that are running, and one
`ClientEvent` lets a client start, issue its next command, or crash.

What a client does is known of the programs that may be started, so a fact
about its commands is proved once, along the program, and holds in every
state of every run. The fact is a `Discipline`: which commands may be issued,
in terms of what the client has learnt from the replies to earlier ones.
`Program.Wp` is its weakest precondition, and `SharedStore.Obeys` says that
the clients keep to it; with nothing to learn it is a set of commands
(`Program.Only`, `SharedStore.Issues`).

`along_iff` is the rule for properties that hold along a run under a
condition: if a step from a state with the property keeps it exactly when
the step meets a condition, then a run has the property throughout exactly
when all its steps meet the condition.
-/

/-! ## Runs -/

section Runs

variable {σ ε : Type} {step : σ → ε → σ} {s : σ} {events : List ε}

/-- **The property holds along the run**: in the state each prefix of the
events leads to. -/
def Along (step : σ → ε → σ) (P : σ → Prop) (s : σ) (events : List ε) : Prop :=
  ∀ pre, pre <+: events → P (pre.foldl step s)

/-- **Every step of the run meets the condition**, which is asked of the
event in the state before it. -/
def EachStep (step : σ → ε → σ) (C : σ → ε → Prop) (s : σ) (events : List ε) : Prop :=
  ∀ pre e, pre ++ [e] <+: events → C (pre.foldl step s) e

theorem EachStep.of_prefix {C : σ → ε → Prop} {more : List ε} (h : EachStep step C s more)
    (hle : events <+: more) : EachStep step C s events :=
  fun pre e hpre => h pre e (hpre.trans hle)

theorem eachStep_nil {C : σ → ε → Prop} : EachStep step C s [] := fun _ _ hpre =>
  absurd (List.prefix_nil.mp hpre) (List.append_ne_nil_of_right_ne_nil _ (List.cons_ne_nil _ _))

/-- The steps of a run are its first and those after it. -/
theorem eachStep_cons {C : σ → ε → Prop} {e : ε} :
    EachStep step C s (e :: events) ↔ C s e ∧ EachStep step C (step s e) events := by
  constructor
  · intro h
    exact ⟨h [] e (List.prefix_append [e] events),
      fun pre e' hpre => h (e :: pre) e' (List.cons_prefix_cons.mpr ⟨rfl, hpre⟩)⟩
  · rintro ⟨hfirst, hrest⟩ pre e' hpre
    cases pre with
    | nil =>
      obtain ⟨rfl, -⟩ := List.cons_prefix_cons.mp hpre
      exact hfirst
    | cons e₁ pre =>
      obtain ⟨rfl, htail⟩ := List.cons_prefix_cons.mp hpre
      exact hrest pre e' htail

/-- Whether all steps meet a condition is decided along the run. -/
instance decidableEachStep {C : σ → ε → Prop} [∀ s e, Decidable (C s e)] :
    (s : σ) → (events : List ε) → Decidable (EachStep step C s events)
  | _, [] => isTrue eachStep_nil
  | s, e :: events =>
    have := decidableEachStep (C := C) (step s e) events
    decidable_of_iff _ eachStep_cons.symm

/-- What every step keeps holds at the end of the run. -/
theorem invariant_foldl {I : σ → Prop} (h : I s) (hstep : ∀ s e, I s → I (step s e)) :
    I (events.foldl step s) := by
  induction events generalizing s with
  | nil => exact h
  | cons e events ih => exact ih (hstep s e h)

/-- **What a step keeps under a condition holds along a run whose steps meet
it.** -/
theorem along_of_eachStep {P : σ → Prop} {C : σ → ε → Prop} (hP : P s)
    (hstep : ∀ s e, P s → C s e → P (step s e)) (h : EachStep step C s events) :
    Along step P s events := by
  intro pre hpre
  induction pre using List.reverseRecOn with
  | nil => exact hP
  | append_singleton pre e ih =>
    rw [List.foldl_append]
    exact hstep _ e (ih ((List.prefix_append pre [e]).trans hpre)) (h pre e hpre)

/-- **A property that is kept exactly under a condition holds along a run
exactly when each step meets the condition.** -/
theorem along_iff {I P : σ → Prop} {C : σ → ε → Prop} (hI : I s) (hP : P s)
    (hkeep : ∀ s e, I s → I (step s e))
    (hstep : ∀ s e, I s → P s → (P (step s e) ↔ C s e)) :
    Along step P s events ↔ EachStep step C s events := by
  have hnext : ∀ pre e, (pre ++ [e]).foldl step s = step (pre.foldl step s) e :=
    fun pre e => List.foldl_append
  constructor
  · intro h pre e hpre
    have hbefore := h pre ((List.prefix_append pre [e]).trans hpre)
    have hafter := h (pre ++ [e]) hpre
    rw [hnext] at hafter
    exact (hstep _ e (invariant_foldl hI hkeep) hbefore).mp hafter
  · intro h
    have hboth : Along step (fun s => I s ∧ P s) s events :=
      along_of_eachStep ⟨hI, hP⟩
        (fun s e hs hC => ⟨hkeep s e hs.1, (hstep s e hs.1 hs.2).mpr hC⟩) h
    exact fun pre hpre => (hboth pre hpre).2

/-- What no step brings back was there from the start, if it is there at the end. -/
theorem of_foldl {I P : σ → Prop} (hI : I s) (hkeep : ∀ s e, I s → I (step s e))
    (hlost : ∀ s e, I s → P (step s e) → P s) (h : P (events.foldl step s)) : P s := by
  induction events generalizing s with
  | nil => exact h
  | cons e events ih => exact hlost s e hI (ih (hkeep s e hI) h)

/-- **A property that no step brings back holds at the end of a run exactly when every step kept
it.** -/
theorem foldl_iff_eachStep {I P : σ → Prop} {C : σ → ε → Prop} (hI : I s) (hP : P s)
    (hkeep : ∀ s e, I s → I (step s e))
    (hstep : ∀ s e, I s → P s → (P (step s e) ↔ C s e))
    (hlost : ∀ s e, I s → P (step s e) → P s) :
    P (events.foldl step s) ↔ EachStep step C s events := by
  induction events generalizing s with
  | nil => exact iff_of_true hP eachStep_nil
  | cons e events ih =>
    have hI' := hkeep s e hI
    rw [eachStep_cons, List.foldl_cons]
    constructor
    · intro h
      have hafter := of_foldl hI' hkeep hlost h
      exact ⟨(hstep s e hI hP).mp hafter, (ih hI' hafter).mp h⟩
    · rintro ⟨hC, hrest⟩
      exact (ih hI' ((hstep s e hI hP).mpr hC)).mpr hrest

/-- A property may be replaced by one that is equivalent wherever a run gets
to. -/
theorem along_congr {I P P' : σ → Prop} (hI : I s) (hkeep : ∀ s e, I s → I (step s e))
    (h : ∀ s, I s → (P s ↔ P' s)) : Along step P s events ↔ Along step P' s events :=
  forall_congr' (fun _ => imp_congr_right (fun _ => h _ (invariant_foldl hI hkeep)))

/-- What a run has throughout may be strengthened by what a step can only keep
together with it. -/
theorem along_strengthen {P Q : σ → Prop} (hP : P s) (hQ : ∀ s, P s → Q s)
    (hstep : ∀ s e, P s → Q (step s e) → P (step s e)) :
    Along step Q s events ↔ Along step P s events := by
  refine ⟨fun h pre hpre => ?_, fun h pre hpre => hQ _ (h pre hpre)⟩
  induction pre using List.reverseRecOn with
  | nil => exact hP
  | append_singleton pre e ih =>
    have hafter := h (pre ++ [e]) hpre
    rw [List.foldl_append] at hafter ⊢
    exact hstep _ e (ih ((List.prefix_append pre [e]).trans hpre)) hafter

/-- So may a condition. -/
theorem eachStep_congr {I : σ → Prop} {C C' : σ → ε → Prop} (hI : I s)
    (hkeep : ∀ s e, I s → I (step s e)) (h : ∀ s e, I s → (C s e ↔ C' s e)) :
    EachStep step C s events ↔ EachStep step C' s events := by
  refine forall_congr' (fun pre => forall_congr' (fun e => imp_congr_right (fun _ => h _ e ?_)))
  exact invariant_foldl hI hkeep

/-- And so may a condition that keeps the invariant itself. -/
theorem eachStep_congr_of_kept {I : σ → Prop} {C C' : σ → ε → Prop} (hI : I s)
    (h : ∀ s e, I s → (C s e ↔ C' s e)) (hkeep : ∀ s e, I s → C s e → I (step s e)) :
    EachStep step C s events ↔ EachStep step C' s events := by
  induction events generalizing s with
  | nil => exact iff_of_true eachStep_nil eachStep_nil
  | cons e events ih =>
    rw [eachStep_cons, eachStep_cons, ← h s e hI]
    exact and_congr_right (fun hC => ih (hkeep s e hI hC))

theorem eachStep_and {C C' : σ → ε → Prop} :
    EachStep step (fun s e => C s e ∧ C' s e) s events
      ↔ EachStep step C s events ∧ EachStep step C' s events :=
  ⟨fun h => ⟨fun pre e hpre => (h pre e hpre).1, fun pre e hpre => (h pre e hpre).2⟩,
    fun h pre e hpre => ⟨h.1 pre e hpre, h.2 pre e hpre⟩⟩

/-- **The relation holds between each state of the run and every later
one.** -/
def Onward (step : σ → ε → σ) (R : σ → σ → Prop) (s : σ) (events : List ε) : Prop :=
  ∀ pre post, pre ++ post <+: events → R (pre.foldl step s) ((pre ++ post).foldl step s)

/-- A preorder holds onward exactly when it holds over each step. -/
theorem onward_iff {R : σ → σ → Prop} [Std.Refl R] [IsTrans σ R] :
    Onward step R s events ↔ EachStep step (fun s e => R s (step s e)) s events := by
  constructor
  · intro h pre e hpre
    have hR := h pre [e] hpre
    rwa [List.foldl_append] at hR
  · intro h pre post hpost
    induction post using List.reverseRecOn with
    | nil =>
      rw [List.append_nil]
      exact Std.Refl.refl _
    | append_singleton post e ih =>
      rw [← List.append_assoc] at hpost ⊢
      have hlast := h (pre ++ post) e hpost
      have hnext : (pre ++ post ++ [e]).foldl step s = step ((pre ++ post).foldl step s) e :=
        List.foldl_append
      rw [hnext]
      exact IsTrans.trans _ _ _ (ih ((List.prefix_append _ [e]).trans hpost)) hlast

end Runs

/-! ## Programs -/

/-- **A program**: it has returned, or it issues a command and goes on with
the reply. -/
inductive Program (C : Type) (Reply : C → Type) (α : Type) : Type
  | ret (a : α)
  | call (c : C) (k : Reply c → Program C Reply α)

namespace Program

variable {C : Type} {Reply : C → Type} {α β : Type}

/-- Run one program after another. -/
def bind : Program C Reply α → (α → Program C Reply β) → Program C Reply β
  | ret a, k => k a
  | call c next, k => call c (fun r => bind (next r) k)

instance : Monad (Program C Reply) where
  pure := ret
  bind := bind

/-- Issue a command. -/
def issue (c : C) : Program C Reply (Reply c) := call c ret

end Program

/-- **A program among others**: its commands are some of those of a larger set,
and are replied to in the same way. -/
def Program.embed {C C' : Type} {Reply : C → Type} {Reply' : C' → Type} {α : Type} (f : C → C')
    (reply : ∀ c, Reply' (f c) ≃ Reply c) : Program C Reply α → Program C' Reply' α
  | ret a => ret a
  | call c k => call (f c) (fun r => (k (reply c r)).embed f reply)

/-! ## One client alone -/

/-- **Run a program** on a server nobody else uses. A command may fail with
an exception, before the server has executed it or after, when the reply is
lost; `faults` says of each command in turn whether it does. -/
def Program.run {C : Type} {Reply : C → Type} {S E α : Type} (server : S → (c : C) → S × Reply c) :
    Program C Reply α → (ℕ → Option (Bool × E)) → Method E S α
  | ret a, _, s => (.ok a, s)
  | call c k, faults, s =>
    match faults 0 with
    | none => (k (server s c).2).run server (fun n => faults (n + 1)) (server s c).1
    | some (executed, e) => (.error e, if executed then (server s c).1 else s)

/-- A run that starts with a command. -/
theorem Program.run_issue_bind_eq {C : Type} {Reply : C → Type} {S E α : Type}
    {server : S → (c : C) → S × Reply c} {c : C} {faults : ℕ → Option (Bool × E)} {s : S}
    (k : Reply c → Program C Reply α) :
    ((issue c : Program C Reply (Reply c)) >>= k).run server faults s
      = match faults 0 with
        | none => (k (server s c).2).run server (fun n => faults (n + 1)) (server s c).1
        | some (executed, e) => (.error e, if executed then (server s c).1 else s) := rfl

/-- What holds of a run that starts with a command holds if the command
returns, and if it raises. -/
theorem Program.run_issue_bind {C : Type} {Reply : C → Type} {S E α : Type}
    {server : S → (c : C) → S × Reply c} {c : C} {k : Reply c → Program C Reply α}
    {faults : ℕ → Option (Bool × E)} {s : S} {Q : Except E α × S → Prop}
    (hok : Q ((k (server s c).2).run server (fun n => faults (n + 1)) (server s c).1))
    (herror : ∀ e, Q (.error e, s)) (hexecuted : ∀ e, Q (.error e, (server s c).1)) :
    Q (((issue c : Program C Reply (Reply c)) >>= k).run server faults s) := by
  rw [run_issue_bind_eq]
  split
  · exact hok
  · split
    · exact hexecuted _
    · exact herror _

/-- **Run a program** on a server that serves nobody else and never fails. -/
def Program.alone {C : Type} {Reply : C → Type} {S α : Type}
    (server : S → (c : C) → S × Reply c) : Program C Reply α → S → α × S
  | ret a, s => (a, s)
  | call c k, s => (k (server s c).2).alone server (server s c).1

section Alone

variable {C : Type} {Reply : C → Type} {S α β : Type} {server : S → (c : C) → S × Reply c}

@[simp] theorem Program.alone_pure (a : α) (s : S) :
    (pure a : Program C Reply α).alone server s = (a, s) := rfl

@[simp] theorem Program.alone_issue (c : C) (s : S) :
    (issue c : Program C Reply (Reply c)).alone server s = ((server s c).2, (server s c).1) := rfl

/-- One program after another. -/
@[simp] theorem Program.alone_bind (p : Program C Reply α) (k : α → Program C Reply β) (s : S) :
    (p >>= k).alone server s = (k (p.alone server s).1).alone server (p.alone server s).2 := by
  show (p.bind k).alone server s = _
  induction p generalizing s with
  | ret a => rfl
  | call c next ih => exact ih _ _

@[simp] theorem Program.alone_map (f : α → β) (p : Program C Reply α) (s : S) :
    (f <$> p).alone server s = (f (p.alone server s).1, (p.alone server s).2) :=
  Program.alone_bind p (fun a => pure (f a)) s

end Alone

/-! ## Disciplines -/

/-- **A discipline**: which commands a client may issue, knowing what it
knows, and what a reply teaches it. -/
structure Discipline (C : Type) (Reply : C → Type) (K : Type) where
  allows : K → C → Prop
  learn : K → (c : C) → Reply c → K

/-- The discipline of a set of commands. -/
def Discipline.always {C : Type} {Reply : C → Type} (allowed : C → Prop) :
    Discipline C Reply Unit where
  allows _ := allowed
  learn _ _ _ := ()

namespace Program

variable {C : Type} {Reply : C → Type} {K α β : Type} {d : Discipline C Reply K}

/-- **The weakest precondition** on what is known: every command the program
issues is allowed, and what it returns, with what is known then, satisfies
`Q`. -/
def Wp (d : Discipline C Reply K) (Q : K → α → Prop) : Program C Reply α → K → Prop
  | ret a, known => Q known a
  | call c k, known => d.allows known c ∧ ∀ r, (k r).Wp d Q (d.learn known c r)

theorem Wp.mono {Q Q' : K → α → Prop} {p : Program C Reply α} {known : K} (h : p.Wp d Q known)
    (hQ : ∀ known a, Q known a → Q' known a) : p.Wp d Q' known := by
  induction p generalizing known with
  | ret a => exact hQ known a h
  | call c k ih => exact ⟨h.1, fun r => ih r (h.2 r)⟩

theorem wp_pure {Q : K → α → Prop} {a : α} {known : K} (h : Q known a) :
    (pure a : Program C Reply α).Wp d Q known := h

theorem wp_issue {c : C} {Q : K → Reply c → Prop} {known : K} (hc : d.allows known c)
    (h : ∀ r, Q (d.learn known c r) r) : (issue c : Program C Reply (Reply c)).Wp d Q known :=
  ⟨hc, h⟩

/-- **Sequencing.** -/
theorem wp_bind {Q : K → β → Prop} {p : Program C Reply α} {k : α → Program C Reply β}
    {known : K} (h : p.Wp d (fun known a => (k a).Wp d Q known) known) :
    (p >>= k).Wp d Q known := by
  show (p.bind k).Wp d Q known
  induction p generalizing known with
  | ret a => exact h
  | call c next ih => exact ⟨h.1, fun r => ih r (h.2 r)⟩

/-- The program keeps to the discipline. -/
def Obeys (d : Discipline C Reply K) (p : Program C Reply α) (known : K) : Prop :=
  p.Wp d (fun _ _ => True) known

/-- What comes next may rely on nothing. -/
theorem obeys_bind {p : Program C Reply α} {k : α → Program C Reply β} {known : K}
    (hp : p.Obeys d known) (hk : ∀ known a, (k a).Obeys d known) : (p >>= k).Obeys d known :=
  wp_bind (Wp.mono hp (fun known a _ => hk known a))

/-- A command, and what comes next. -/
theorem obeys_issue_bind {c : C} {k : Reply c → Program C Reply β} {known : K}
    (hc : d.allows known c) (hk : ∀ r, (k r).Obeys d (d.learn known c r)) :
    ((issue c : Program C Reply (Reply c)) >>= k).Obeys d known :=
  wp_bind (wp_issue hc hk)

/-- **Every command the program may ever issue is in the set.** -/
def Only (allowed : C → Prop) (p : Program C Reply α) : Prop := p.Obeys (.always allowed) ()

variable {allowed : C → Prop}

theorem only_pure (a : α) : (pure a : Program C Reply α).Only allowed := True.intro

theorem only_issue {c : C} (h : allowed c) :
    (issue c : Program C Reply (Reply c)).Only allowed := ⟨h, fun _ => True.intro⟩

theorem only_bind {p : Program C Reply α} {k : α → Program C Reply β} (hp : p.Only allowed)
    (hk : ∀ a, (k a).Only allowed) : (p >>= k).Only allowed :=
  obeys_bind hp (fun _ a => hk a)

/-- A client that learns nothing keeps to the commands it is allowed at
first. -/
theorem Only.obeys {known : K} {p : Program C Reply α} (h : p.Only (d.allows known))
    (hlearn : ∀ c r, d.learn known c r = known) : p.Obeys d known := by
  induction p with
  | ret a => exact True.intro
  | call c k ih =>
    refine ⟨h.1, fun r => ?_⟩
    rw [hlearn]
    exact ih r (h.2 r)

theorem Only.imp {allowed' : C → Prop} {p : Program C Reply α} (h : p.Only allowed)
    (himp : ∀ c, allowed c → allowed' c) : p.Only allowed' := by
  induction p with
  | ret a => exact True.intro
  | call c k ih => exact ⟨himp c h.1, fun r => ih r (h.2 r)⟩

end Program

/-! ## Systems -/

/-- What can happen: a client starts one of the programs `A` names, issues
its next command in the environment `E`, or crashes. -/
inductive ClientEvent (A E : Type)
  | start (client : ℕ) (program : A)
  | command (client : ℕ) (environment : E)
  | crash (client : ℕ)

/-- The client the event is about. -/
def ClientEvent.client {A E : Type} : ClientEvent A E → ℕ
  | .start client _ => client
  | .command client _ => client
  | .crash client => client

/-- **A store and the clients at work on it.** -/
structure SharedStore (C : Type) (Reply : C → Type) (S : Type) where
  store : S
  clients : ℕ → Option (Program C Reply Unit) := fun _ => none

/-- How the server executes a command of a client. -/
abbrev Server (C : Type) (Reply : C → Type) (S E : Type) :=
  E → ℕ → S → (c : C) → S × Reply c

namespace SharedStore

variable {C : Type} {Reply : C → Type} {S A E : Type}

/-- **One event.** A client that is at work cannot start another program, and
one that has returned issues no command. -/
def step (server : Server C Reply S E) (programs : A → Program C Reply Unit)
    (s : SharedStore C Reply S) : ClientEvent A E → SharedStore C Reply S
  | .start client program =>
    match s.clients client with
    | some (.call _ _) => s
    | _ => { s with clients := Function.update s.clients client (some (programs program)) }
  | .command client environment =>
    match s.clients client with
    | some (.call c k) =>
      let result := server environment client s.store c
      ⟨result.1, Function.update s.clients client (some (k result.2))⟩
    | _ => s
  | .crash client => { s with clients := Function.update s.clients client none }

/-- The command the event issues, if it issues one. -/
def issued (s : SharedStore C Reply S) : ClientEvent A E → Option (ℕ × E × C)
  | .command client environment =>
    match s.clients client with
    | some (.call c _) => some (client, environment, c)
    | _ => none
  | _ => none

variable {server : Server C Reply S E} {programs : A → Program C Reply Unit}
  {s : SharedStore C Reply S}

/-- A command is issued by a client that is at work. -/
theorem clients_of_issued {e : ClientEvent A E} {client : ℕ} {environment : E} {c : C}
    (h : s.issued e = some (client, environment, c)) :
    e = .command client environment ∧ ∃ k, s.clients client = some (.call c k) := by
  cases e with
  | start _ _ => cases h
  | crash _ => cases h
  | command client' environment' =>
    unfold issued at h
    dsimp only at h
    split at h
    · next k hs =>
      cases h
      exact ⟨rfl, k, hs⟩
    · cases h

/-- An event is about one client. -/
theorem clients_step_of_ne {e : ClientEvent A E} {client : ℕ} (h : client ≠ e.client) :
    (s.step server programs e).clients client = s.clients client := by
  cases e with
  | start client' program =>
    unfold step
    dsimp only
    split
    · rfl
    · exact Function.update_of_ne h _ _
  | command client' environment =>
    unfold step
    dsimp only
    split
    · exact Function.update_of_ne h _ _
    · rfl
  | crash client' => exact Function.update_of_ne h _ _

section Disciplines

variable {K : Type} {d : Discipline C Reply K} {known : S → ℕ → K}

/-- **The clients keep to the discipline**, each knowing what the store says
it knows. -/
def Obeys (d : Discipline C Reply K) (known : S → ℕ → K) (s : SharedStore C Reply S) : Prop :=
  ∀ client p, s.clients client = some p → p.Obeys d (known s.store client)

/-- The clients keep to the discipline when one of them goes on with a
program that does. -/
theorem obeys_update {store : S} {client : ℕ} {next : Option (Program C Reply Unit)}
    (hnext : ∀ p, next = some p → p.Obeys d (known store client))
    (hothers : ∀ client' p, client' ≠ client → s.clients client' = some p →
      p.Obeys d (known store client')) :
    (⟨store, Function.update s.clients client next⟩ : SharedStore C Reply S).Obeys d known := by
  intro client' p hp
  by_cases hc : client' = client
  · subst hc
    exact hnext p ((Function.update_self client' next s.clients).symm.trans hp)
  · exact hothers client' p hc ((Function.update_of_ne hc next s.clients).symm.trans hp)

/-- **Clients that run disciplined programs stay disciplined**, provided that
a reply teaches the client that gets it, and nobody else. -/
theorem Obeys.step {e : ClientEvent A E}
    (hprograms : ∀ client a, e = .start client a → (programs a).Obeys d (known s.store client))
    (hself : ∀ environment client s c, known (server environment client s c).1 client
      = d.learn (known s client) c (server environment client s c).2)
    (hother : ∀ environment client s c client', client' ≠ client →
      known (server environment client s c).1 client' = known s client')
    (h : s.Obeys d known) : (s.step server programs e).Obeys d known := by
  cases e with
  | start client program =>
    unfold SharedStore.step
    dsimp only
    split
    · exact h
    · refine obeys_update (fun p hp => ?_) (fun client' p _ => h client' p)
      cases hp
      exact hprograms client program rfl
  | command client environment =>
    unfold SharedStore.step
    dsimp only
    split
    · next c k hs =>
      refine obeys_update (fun p hp => ?_) (fun client' p hc hp => ?_)
      · cases hp
        rw [hself]
        exact (h client _ hs).2 _
      · rw [hother environment client s.store c client' hc]
        exact h client' p hp
    · exact h
  | crash client => exact obeys_update nofun (fun client' p _ => h client' p)

/-- A command that is issued is one that is allowed. -/
theorem Obeys.issued (h : s.Obeys d known) {e : ClientEvent A E} {client : ℕ} {environment : E}
    {c : C} (hi : s.issued e = some (client, environment, c)) :
    d.allows (known s.store client) c := by
  obtain ⟨-, k, hclient⟩ := clients_of_issued hi
  exact (h client _ hclient).1

end Disciplines

/-- All commands ahead of the clients are in the set. -/
def Issues (allowed : C → Prop) (s : SharedStore C Reply S) : Prop :=
  s.Obeys (.always allowed) (fun _ _ => ())

/-- **Clients that run known programs issue known commands.** -/
theorem Issues.step {allowed : C → Prop} (hprograms : ∀ a, (programs a).Only allowed)
    (h : s.Issues allowed) (e : ClientEvent A E) : (s.step server programs e).Issues allowed :=
  Obeys.step (fun _ a _ => hprograms a) (fun _ _ _ _ => rfl) (fun _ _ _ _ _ _ => rfl) h

/-- **The store changes by commands only.** -/
theorem store_step (server : Server C Reply S E) (programs : A → Program C Reply Unit)
    (s : SharedStore C Reply S) (e : ClientEvent A E) :
    (s.issued e = none ∧ (s.step server programs e).store = s.store)
      ∨ ∃ client environment c, s.issued e = some (client, environment, c)
        ∧ (s.step server programs e).store = (server environment client s.store c).1 := by
  cases e with
  | start client program =>
    refine Or.inl ⟨rfl, ?_⟩
    unfold SharedStore.step
    dsimp only
    split <;> rfl
  | command client environment =>
    unfold SharedStore.step issued
    dsimp only
    cases s.clients client with
    | none => exact Or.inl ⟨rfl, rfl⟩
    | some p =>
      cases p with
      | ret _ => exact Or.inl ⟨rfl, rfl⟩
      | call c k => exact Or.inr ⟨client, environment, c, rfl, rfl⟩
  | crash client => exact Or.inl ⟨rfl, rfl⟩

end SharedStore
