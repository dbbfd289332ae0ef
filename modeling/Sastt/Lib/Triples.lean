import Sastt.Lib.Method

/-!
# Triples

`Triple P m Q E` says of a method what it leaves behind when it is called in a
state of `P`: if it returns a value, a state in `Q` of that value, and if it
raises, an exception and a state in `E`. There is one rule for each construct
of `Method`, with the same `E` throughout, so that a triple of a long method is
put together from triples of the methods it calls.
-/

namespace Method

variable {ε σ τ α β : Type}

/-- **From `P`, the method returns in `Q` or raises in `E`.** -/
def Triple (P : σ → Prop) (m : Method ε σ α) (Q : α → σ → Prop) (E : ε → σ → Prop) : Prop :=
  ∀ s, P s → (∀ a t, m s = (.ok a, t) → Q a t) ∧ ∀ e t, m s = (.error e, t) → E e t

variable {P P' : σ → Prop} {m : Method ε σ α} {k : α → Method ε σ β} {Q Q' : α → σ → Prop}
  {Q₂ : β → σ → Prop} {E E' : ε → σ → Prop}

theorem Triple.ok (h : Triple P m Q E) {s t : σ} {a : α} (hs : P s) (hm : m s = (.ok a, t)) :
    Q a t := (h s hs).1 a t hm

theorem Triple.error (h : Triple P m Q E) {s t : σ} {e : ε} (hs : P s) (hm : m s = (.error e, t)) :
    E e t := (h s hs).2 e t hm

/-- **The rule of consequence.** -/
theorem Triple.weaken (h : Triple P m Q E) (hP : ∀ s, P' s → P s) (hQ : ∀ a s, Q a s → Q' a s)
    (hE : ∀ e s, E e s → E' e s) : Triple P' m Q' E' :=
  fun s hs => ⟨fun a t hm => hQ a t (h.ok (hP s hs) hm), fun e t hm =>
    hE e t (h.error (hP s hs) hm)⟩

/-- What is proved twice of a method holds together. -/
theorem Triple.and (h : Triple P m Q E) (h' : Triple P' m Q' E') :
    Triple (fun s => P s ∧ P' s) m (fun a s => Q a s ∧ Q' a s) (fun e s => E e s ∧ E' e s) :=
  fun _ hs => ⟨fun _ _ hm => ⟨h.ok hs.1 hm, h'.ok hs.2 hm⟩,
    fun _ _ hm => ⟨h.error hs.1 hm, h'.error hs.2 hm⟩⟩

/-- What is left to be shown of a state from which the method returns. -/
theorem triple_at_ok {s t : σ} {a : α} (hm : m s = (.ok a, t)) (h : Q a t) :
    (∀ a t, m s = (.ok a, t) → Q a t) ∧ ∀ e t, m s = (.error e, t) → E e t := by
  rw [hm]
  refine ⟨?_, nofun⟩
  rintro _ _ ⟨⟩
  exact h

/-- And of one from which it raises. -/
theorem triple_at_error {s t : σ} {e : ε} (hm : m s = (.error e, t)) (h : E e t) :
    (∀ a t, m s = (.ok a, t) → Q a t) ∧ ∀ e t, m s = (.error e, t) → E e t := by
  rw [hm]
  refine ⟨nofun, ?_⟩
  rintro _ _ ⟨⟩
  exact h

/-- A method that always returns. -/
theorem triple_of_ok (h : ∀ s, P s → ∃ a t, m s = (.ok a, t) ∧ Q a t) : Triple P m Q E := by
  intro s hs
  obtain ⟨a, t, hok, hQ⟩ := h s hs
  constructor
  · intro a' t' hm
    obtain ⟨ha, ht⟩ := Prod.mk.injEq .. ▸ hok.symm.trans hm
    rw [← Except.ok.inj ha, ← ht]
    exact hQ
  · intro e t' hm
    have hboth := congrArg Prod.fst (hok.symm.trans hm)
    cases hboth

/-- A method after which something holds, whether it returns or raises. -/
theorem triple_of_snd {I : σ → Prop} (h : ∀ s, P s → I (m s).2) :
    Triple P m (fun _ => I) (fun _ => I) := by
  intro s hs
  constructor <;> intro _ t hm <;> rw [← show (m s).2 = t from congrArg Prod.snd hm] <;> exact h s
    hs

/-- What holds at the end either way. -/
theorem Triple.snd {I : σ → Prop} (h : Triple P m (fun _ => I) (fun _ => I)) {s : σ} (hs : P s) :
    I (m s).2 := by
  rcases hm : m s with ⟨e | a, t⟩
  · exact h.error hs hm
  · exact h.ok hs hm

/-- A method that stays inside a frame, in a state that the frame keeps. -/
theorem triple_of_within {R : σ → σ → Prop} (hm : Within R m) (hP : ∀ s t, R s t → P s → P t)
    (hok : ∀ s a t, P s → m s = (.ok a, t) → Q a t) : Triple P m (fun a t => P t ∧ Q a t)
      (fun _ => P) :=
  fun s hs => ⟨fun a t h => ⟨hP s t (hm.rel h) hs, hok s a t hs h⟩,
    fun _ t h => hP s t (hm.rel h) hs⟩

theorem triple_pure {a : α} (h : ∀ s, P s → Q a s) : Triple P (pure a : Method ε σ α) Q E := by
  intro s hs
  refine ⟨?_, nofun⟩
  rintro _ _ ⟨⟩
  exact h s hs

theorem triple_throw {e : ε} (h : ∀ s, P s → E e s) : Triple P (throw e : Method ε σ α) Q E := by
  intro s hs
  refine ⟨nofun, ?_⟩
  rintro _ _ ⟨⟩
  exact h s hs

theorem triple_ofExcept {x : Except ε α} (hok : ∀ a, x = .ok a → ∀ s, P s → Q a s)
    (herror : ∀ e, x = .error e → ∀ s, P s → E e s) :
    Triple P (ofExcept x : Method ε σ α) Q E := by
  intro s hs
  constructor
  · intro a t hm
    obtain ⟨hx, rfl⟩ := ofExcept_eq_ok.mp hm
    exact hok a hx s hs
  · intro e t hm
    cases hm
    exact herror e rfl s hs

theorem triple_modify {f : σ → σ} {Q : Unit → σ → Prop} (h : ∀ s, P s → Q () (f s)) :
    Triple P (modify f : Method ε σ Unit) Q E := by
  intro s hs
  refine ⟨?_, nofun⟩
  rintro _ _ ⟨⟩
  exact h s hs

/-- **The rule of a sequence.** -/
theorem triple_bind (hm : Triple P m Q E) (hk : ∀ a, Triple (Q a) (k a) Q₂ E) :
    Triple P (m >>= k) Q₂ E := by
  intro s hs
  constructor
  · intro b u h
    obtain ⟨a, t, hms, hkt⟩ := bind_eq_ok.mp h
    exact (hk a).ok (hm.ok hs hms) hkt
  · intro e u h
    rcases bind_eq_error.mp h with hms | ⟨a, t, hms, hkt⟩
    · exact hm.error hs hms
    · exact (hk a).error (hm.ok hs hms) hkt

/-- Reading the state, one may reason about it. -/
theorem triple_read {k : σ → Method ε σ β}
    (h : ∀ s, P s → Triple (fun t => t = s ∧ P t) (k s) Q₂ E) :
    Triple P (read >>= k) Q₂ E := fun s hs => h s hs s ⟨rfl, hs⟩

/-- It may also be read and not be reasoned about. -/
theorem triple_read_of_forall {k : σ → Method ε σ β} (h : ∀ s, Triple P (k s) Q₂ E) :
    Triple P (read >>= k) Q₂ E := fun s hs => h s s hs

/-- A precondition about no state at all may be assumed. -/
theorem triple_of_prop {p : Prop} (h : p → Triple P m Q E) : Triple (fun s => p ∧ P s) m Q E :=
  fun s hs => h hs.1 s hs.2

/-- **The rule of a loop**, with an invariant of what has been collected. -/
theorem triple_mapEach {I : List β → σ → Prop} {xs : List α} {body : α → Method ε σ β}
    (h : ∀ x ∈ xs, ∀ ys, Triple (I ys) (body x) (fun y => I (ys ++ [y])) E) :
    Triple (I []) (mapEach xs body) I E := by
  suffices hall : ∀ ys, Triple (I ys) (mapEach xs body) (fun zs => I (ys ++ zs)) E from
    (hall []).weaken (fun _ hs => hs) (fun zs _ hzs => by rwa [List.nil_append] at hzs)
      (fun _ _ he => he)
  induction xs with
  | nil =>
    exact fun ys => triple_pure (fun s hs => by rwa [List.append_nil])
  | cons x xs ih =>
    intro ys
    refine triple_bind (h x List.mem_cons_self ys) (fun y => triple_bind
      (ih (fun z hz => h z (List.mem_cons_of_mem x hz)) (ys ++ [y])) (fun zs => triple_pure ?_))
    intro s hs
    rwa [List.append_assoc] at hs

/-- A loop that collects nothing. -/
theorem triple_forEach {xs : List α} {body : α → Method ε σ Unit}
    (h : ∀ x ∈ xs, Triple P (body x) (fun _ => P) E) :
    Triple P (forEach xs body) (fun _ => P) E := by
  induction xs with
  | nil => exact triple_pure (fun _ hs => hs)
  | cons x xs ih =>
    exact triple_bind (h x List.mem_cons_self)
      (fun _ => ih (fun y hy => h y (List.mem_cons_of_mem x hy)))

/-- The first two methods of a sequence may go together. -/
theorem triple_bind_two {γ : Type} {l : β → Method ε σ γ} {K : β → σ → Prop} {L : γ → σ → Prop}
    (hmk : Triple P (m >>= k) K E) (hl : ∀ b, Triple (K b) (l b) L E) :
    Triple P (m >>= fun a => k a >>= l) L E := bind_assoc m k l ▸ triple_bind hmk hl

/-- **The rule of an exception handler**, which starts from the state the
exception left. What it does not handle is raised on. -/
theorem triple_catchIf_raising {handles : ε → Bool} {h : ε → Method ε σ α} (hm : Triple P m Q E')
    (hh : ∀ e, Triple (E' e) (h e) Q E) (hraise : ∀ e s, E' e s → E e s) :
    Triple P (m.catchIf handles h) Q E := by
  intro s hs
  rcases hms : m s with ⟨e | a, t⟩
  · have ht : E' e t := hm.error hs hms
    have hcatch : m.catchIf handles h s = if handles e then h e t else (.error e, t) := by
      unfold catchIf
      rw [hms]
    rw [hcatch]
    split
    · exact hh e t ht
    · refine ⟨nofun, ?_⟩
      rintro _ _ ⟨⟩
      exact hraise e t ht
  · have hcatch : m.catchIf handles h s = (.ok a, t) := by
      unfold catchIf
      rw [hms]
    rw [hcatch]
    refine ⟨?_, nofun⟩
    rintro _ _ ⟨⟩
    exact hm.ok hs hms

/-- A handler that leaves what was left to it. -/
theorem triple_catchIf {handles : ε → Bool} {h : ε → Method ε σ α} (hm : Triple P m Q E)
    (hh : ∀ e, Triple (E e) (h e) Q E) : Triple P (m.catchIf handles h) Q E :=
  triple_catchIf_raising hm hh (fun _ _ hs => hs)

/-- **The rule of a part of the object.** -/
theorem Triple.zoom {get : τ → σ} {set : τ → σ → τ} (h : Triple P m Q E)
    (hget : ∀ t s, get (set t s) = s) :
    Triple (fun t => P (get t)) (m.zoom get set) (fun a t => Q a (get t))
      (fun e t => E e (get t)) := by
  intro t ht
  constructor
  · intro a u hm
    obtain ⟨s, hs, rfl⟩ := zoom_eq_ok hm
    rw [hget]
    exact h.ok ht hs
  · intro e u hm
    rw [← show set t (m (get t)).2 = u from congrArg Prod.snd hm, hget]
    exact h.error ht (Prod.ext (show _ = Except.error e from congrArg Prod.fst hm) rfl)

/-! ## Invariants, and what is returned under them -/

/-- **The method keeps `I`, and from there returns in `P`.** -/
def Yields (I : σ → Prop) (P : α → Prop) (m : Method ε σ α) : Prop :=
  Triple I m (fun a s => I s ∧ P a) (fun _ => I)

section Yields

variable {I : σ → Prop} {A B : α → Prop} {C : β → Prop}

theorem Yields.snd (h : Yields I A m) {s : σ} (hs : I s) : I (m s).2 :=
  Triple.snd (h.weaken (fun _ hs => hs) (fun _ _ hs => hs.1) (fun _ _ hs => hs)) hs

theorem Yields.weaken (h : Yields I A m) (hAB : ∀ a, A a → B a) : Yields I B m :=
  Triple.weaken h (fun _ hs => hs) (fun a _ hs => ⟨hs.1, hAB a hs.2⟩) (fun _ _ hs => hs)

/-- A method that keeps the invariant. -/
theorem yields_of_snd (h : ∀ s, I s → I (m s).2) : Yields I (fun _ => True) m :=
  (triple_of_snd h).weaken (fun _ hs => hs) (fun _ _ hs => ⟨hs, trivial⟩) (fun _ _ hs => hs)

theorem yields_pure {a : α} (h : A a) : Yields I A (pure a : Method ε σ α) :=
  triple_pure (fun _ hs => ⟨hs, h⟩)

theorem yields_throw (e : ε) : Yields I A (throw e : Method ε σ α) := triple_throw (fun _ hs => hs)

theorem yields_read : Yields I (fun _ => True) (read : Method ε σ σ) :=
  yields_of_snd (fun _ hs => hs)

theorem yields_ofExcept (x : Except ε α) :
    Yields I (fun _ => True) (ofExcept x : Method ε σ α) := yields_of_snd (fun _ hs => hs)

theorem yields_modify {f : σ → σ} (h : ∀ s, I s → I (f s)) :
    Yields I (fun _ => True) (modify f : Method ε σ Unit) := yields_of_snd h

/-- A sequence returns what its second method does, of what the first did. -/
theorem yields_bind (hm : Yields I A m) (hk : ∀ a, A a → Yields I C (k a)) :
    Yields I C (m >>= k) :=
  triple_bind hm (fun a s hs => hk a hs.2 s hs.1)

/-- A loop collects what its turns return. -/
theorem yields_mapEach {xs : List α} {body : α → Method ε σ β}
    (h : ∀ x ∈ xs, Yields I C (body x)) : Yields I (fun ys => ∀ y ∈ ys, C y) (mapEach xs body) := by
  induction xs with
  | nil => exact yields_pure (fun _ hy => absurd hy List.not_mem_nil)
  | cons x xs ih =>
    refine yields_bind (h x List.mem_cons_self) (fun y hy => ?_)
    refine yields_bind (ih (fun z hz => h z (List.mem_cons_of_mem x hz))) (fun ys hys => ?_)
    exact yields_pure (List.forall_mem_cons.mpr ⟨hy, hys⟩)

/-- What the method returns from any state, it returns under an invariant. -/
theorem Yields.and_returns (h : Yields I A m) (hB : Returns B m) :
    Yields I (fun a => A a ∧ B a) m := by
  intro s hs
  refine ⟨fun a t hok => ?_, fun e t herror => h.error hs herror⟩
  obtain ⟨hI, hA⟩ := h.ok hs hok
  exact ⟨hI, hA, hB s a t hok⟩

/-- Another invariant may be kept besides. -/
theorem Yields.and_keeps {J : σ → Prop} (h : Yields I A m) (hJ : ∀ s, J s → J (m s).2) :
    Yields (fun s => I s ∧ J s) A m := by
  intro s hs
  have hkept := hJ s hs.2
  constructor
  · intro a t hok
    rw [show (m s).2 = t from congrArg Prod.snd hok] at hkept
    obtain ⟨hI, hA⟩ := h.ok hs.1 hok
    exact ⟨⟨hI, hkept⟩, hA⟩
  · intro e t herror
    rw [show (m s).2 = t from congrArg Prod.snd herror] at hkept
    exact ⟨h.error hs.1 herror, hkept⟩

theorem Yields.zoom {get : τ → σ} {set : τ → σ → τ} (h : Yields I A m)
    (hget : ∀ t s, get (set t s) = s) : Yields (fun t => I (get t)) A (m.zoom get set) :=
  Triple.zoom h hget

end Yields

end Method
