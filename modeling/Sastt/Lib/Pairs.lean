import Sastt.Lib.Method

/-!
# Two runs of a method

What a method does in one state is compared with what another method, or the
same one, does in a second state. Run side by side, the two are paired by a
relation on the states if they end in related states and both return or both
raise. There is one rule for each construct of `Method`. The values returned
are not related: where what follows depends on one, the rule for `ofExcept`
hands both values on.

They agree if they also return the same value or raise the same exception.
-/

/-- Related options are both empty, or hold related values. -/
theorem Option.Rel.elim {α β : Type} {r : α → β → Prop} {x : Option α} {y : Option β}
    (h : Option.Rel r x y) :
    (x = .none ∧ y = .none) ∨ ∃ a b, x = .some a ∧ y = .some b ∧ r a b := by
  cases h with
  | none => exact Or.inl ⟨rfl, rfl⟩
  | some h => exact Or.inr ⟨_, _, rfl, rfl, h⟩

namespace Method

variable {ε σ τ α β γ δ : Type}

/-- **Run side by side from two states**, the methods end in related states,
and both return or both raise. -/
structure PairedAt (R : σ → τ → Prop) (m : Method ε σ α) (m' : Method ε τ β) (s : σ) (t : τ) :
    Prop where
  state : R (m s).2 (m' t).2
  outcome : (m' t).1.isOk = (m s).1.isOk

/-- From all related states. -/
def Paired (R : σ → τ → Prop) (m : Method ε σ α) (m' : Method ε τ β) : Prop :=
  ∀ s t, R s t → PairedAt R m m' s t

variable {R : σ → τ → Prop} {m : Method ε σ α} {m' : Method ε τ β} {k : α → Method ε σ γ}
  {k' : β → Method ε τ δ} {s : σ} {t : τ}

theorem paired_pure (a : α) (b : β) :
    Paired R (pure a : Method ε σ α) (pure b : Method ε τ β) := fun _ _ h => ⟨h, rfl⟩

theorem paired_throw (e e' : ε) :
    Paired R (throw e : Method ε σ α) (throw e' : Method ε τ β) := fun _ _ h => ⟨h, rfl⟩

theorem paired_modify {f : σ → σ} {g : τ → τ} (h : ∀ s t, R s t → R (f s) (g t)) :
    Paired R (modify f : Method ε σ Unit) (modify g) := fun s t hR => ⟨h s t hR, rfl⟩

/-- **The rule of a sequence**, where more is known in the middle. -/
theorem PairedAt.bind_of {R' : σ → τ → Prop} (hm : PairedAt R' m m' s t)
    (hk : ∀ a b u v, R' u v → PairedAt R (k a) (k' b) u v) (hR : ∀ u v, R' u v → R u v) :
    PairedAt R (m >>= k) (m' >>= k') s t := by
  obtain ⟨hstate, houtcome⟩ := hm
  rcases hms : m s with ⟨e | a, u⟩ <;> rcases hmt : m' t with ⟨e' | b, v⟩
  · rw [hms, hmt] at hstate
    exact ⟨by rw [bind_of_error hms, bind_of_error hmt]; exact hR u v hstate,
      by rw [bind_of_error hms, bind_of_error hmt]; rfl⟩
  · rw [hms, hmt] at houtcome
    cases houtcome
  · rw [hms, hmt] at houtcome
    cases houtcome
  · rw [hms, hmt] at hstate
    have hpair := hk a b u v hstate
    exact ⟨by rw [bind_of_ok hms, bind_of_ok hmt]; exact hpair.state,
      by rw [bind_of_ok hms, bind_of_ok hmt]; exact hpair.outcome⟩

theorem PairedAt.bind (hm : PairedAt R m m' s t) (hk : ∀ a b, Paired R (k a) (k' b)) :
    PairedAt R (m >>= k) (m' >>= k') s t := hm.bind_of hk (fun _ _ h => h)

theorem paired_bind (hm : Paired R m m') (hk : ∀ a b, Paired R (k a) (k' b)) :
    Paired R (m >>= k) (m' >>= k') := fun s t h => (hm s t h).bind hk

/-- What was read goes on from the states it was read in. -/
theorem pairedAt_read_bind {k : σ → Method ε σ γ} {k' : τ → Method ε τ δ}
    (h : PairedAt R (k s) (k' t) s t) : PairedAt R (read >>= k) (read >>= k') s t :=
    ⟨h.state, h.outcome⟩

/-- **The rule of an expression**: both raise, or what follows is paired at the two
values. -/
theorem pairedAt_ofExcept_bind {x : Except ε α} {y : Except ε β} (hR : R s t)
    (h : (∃ e e', x = .error e ∧ y = .error e')
      ∨ ∃ a b, x = .ok a ∧ y = .ok b ∧ PairedAt R (k a) (k' b) s t) :
    PairedAt R (ofExcept x >>= k) (ofExcept y >>= k') s t := by
  rcases h with ⟨e, e', rfl, rfl⟩ | ⟨a, b, rfl, rfl, h⟩
  · exact ⟨hR, rfl⟩
  · exact ⟨h.state, h.outcome⟩

/-- The same expression on both sides. -/
theorem paired_ofExcept_bind {k : α → Method ε σ γ} {k' : α → Method ε τ δ} (x : Except ε α)
    (hk : ∀ a, x = .ok a → Paired R (k a) (k' a)) :
    Paired R (ofExcept x >>= k) (ofExcept x >>= k') := by
  intro s t h
  cases x with
  | error e => exact ⟨h, rfl⟩
  | ok a => exact ⟨(hk a rfl s t h).state, (hk a rfl s t h).outcome⟩

/-- **The rule of a loop** over the same list. -/
theorem paired_mapEach {xs : List γ} {body : γ → Method ε σ α} {body' : γ → Method ε τ β}
    (h : ∀ x ∈ xs, Paired R (body x) (body' x)) :
    Paired R (mapEach xs body) (mapEach xs body') := by
  induction xs with
  | nil => exact paired_pure [] []
  | cons x xs ih =>
    exact paired_bind (h x List.mem_cons_self) (fun _ _ =>
      paired_bind (ih (fun y hy => h y (List.mem_cons_of_mem x hy))) (fun _ _ => paired_pure _ _))

/-! ## The same answers -/

/-- **Run side by side from two states**, the methods return the same value,
which is one of `A`, or raise the same exception, and end in related states. -/
structure AgreeAt (R : σ → τ → Prop) (A : α → Prop) (m : Method ε σ α) (m' : Method ε τ α)
    (s : σ) (t : τ) : Prop where
  answer : (m' t).1 = (m s).1
  state : R (m s).2 (m' t).2
  returns : ∀ a, (m s).1 = .ok a → A a

/-- From all related states. -/
def Agree (R : σ → τ → Prop) (A : α → Prop) (m : Method ε σ α) (m' : Method ε τ α) : Prop :=
  ∀ s t, R s t → AgreeAt R A m m' s t

section Agree

variable {A : α → Prop} {B : β → Prop} {m₁ : Method ε σ α} {m₂ : Method ε τ α}
  {k₁ : α → Method ε σ β} {k₂ : α → Method ε τ β}

theorem agree_pure {a : α} (h : A a) :
    Agree R A (pure a : Method ε σ α) (pure a : Method ε τ α) := by
  refine fun _ _ hR => ⟨rfl, hR, ?_⟩
  rintro _ ⟨⟩
  exact h

theorem agree_throw (e : ε) : Agree R A (throw e : Method ε σ α) (throw e : Method ε τ α) :=
  fun _ _ hR => ⟨rfl, hR, nofun⟩

theorem agree_ofExcept {x : Except ε α} (h : ∀ a, x = .ok a → A a) :
    Agree R A (ofExcept x : Method ε σ α) (ofExcept x : Method ε τ α) :=
  fun _ _ hR => ⟨rfl, hR, h⟩

theorem agree_modify {f : σ → σ} {g : τ → τ} (h : ∀ s t, R s t → R (f s) (g t)) :
    Agree R (fun _ => True) (modify f : Method ε σ Unit) (modify g) :=
  fun s t hR => ⟨rfl, h s t hR, fun _ _ => trivial⟩

theorem AgreeAt.imp {R' : σ → τ → Prop} (h : AgreeAt R A m₁ m₂ s t) (hR : ∀ u v, R u v → R' u v) :
    AgreeAt R' A m₁ m₂ s t := ⟨h.answer, hR _ _ h.state, h.returns⟩

/-- Methods that come to the same are as good. -/
theorem AgreeAt.congr {n₁ : Method ε σ α} {n₂ : Method ε τ α} {s' : σ} {t' : τ}
    (h : AgreeAt R A n₁ n₂ s' t') (hs : m₁ s = n₁ s') (ht : m₂ t = n₂ t') :
    AgreeAt R A m₁ m₂ s t := by
  refine ⟨?_, ?_, ?_⟩
  · rw [hs, ht]
    exact h.answer
  · rw [hs, ht]
    exact h.state
  · rw [hs]
    exact h.returns

/-- **The rule of a sequence**: what follows starts from the same value. -/
theorem AgreeAt.bind (hm : AgreeAt R A m₁ m₂ s t) (hk : ∀ a, A a → Agree R B (k₁ a) (k₂ a)) :
    AgreeAt R B (m₁ >>= k₁) (m₂ >>= k₂) s t := by
  obtain ⟨hanswer, hstate, hreturns⟩ := hm
  rcases hs : m₁ s with ⟨e | a, u⟩ <;> rcases ht : m₂ t with ⟨e' | a', v⟩ <;>
    rw [hs, ht] at hanswer hstate <;> cases hanswer
  · exact (agree_throw e u v hstate).congr (bind_of_error hs) (bind_of_error ht)
  · have hnext := hk a (hreturns a (by rw [hs])) u v hstate
    exact hnext.congr (bind_of_ok hs) (bind_of_ok ht)

theorem agree_bind (hm : Agree R A m₁ m₂) (hk : ∀ a, A a → Agree R B (k₁ a) (k₂ a)) :
    Agree R B (m₁ >>= k₁) (m₂ >>= k₂) := fun s t hR => (hm s t hR).bind hk

/-- What was read goes on from the states it was read in. -/
theorem agree_read_bind {k₁ : σ → Method ε σ β} {k₂ : τ → Method ε τ β}
    (h : ∀ s t, R s t → AgreeAt R B (k₁ s) (k₂ t) s t) :
    Agree R B (read >>= k₁) (read >>= k₂) :=
  fun s t hR => ⟨(h s t hR).answer, (h s t hR).state, (h s t hR).returns⟩

/-- **The rule of a part of the object.** -/
theorem AgreeAt.zoom {σ' τ' : Type} {get : σ' → σ} {set : σ' → σ → σ'} {get' : τ' → τ}
    {set' : τ' → τ → τ'} {R' : σ' → τ' → Prop} {x : σ'} {y : τ'}
    (h : AgreeAt R A m₁ m₂ (get x) (get' y)) (hR : ∀ u v, R u v → R' (set x u) (set' y v)) :
    AgreeAt R' A (m₁.zoom get set) (m₂.zoom get' set') x y :=
  ⟨h.answer, hR _ _ h.state, h.returns⟩

/-- **The rule of an exception handler.** -/
theorem agree_catchIf {handles : ε → Bool} {h₁ : ε → Method ε σ α} {h₂ : ε → Method ε τ α}
    (hm : Agree R A m₁ m₂) (hh : ∀ e, Agree R A (h₁ e) (h₂ e)) :
    Agree R A (m₁.catchIf handles h₁) (m₂.catchIf handles h₂) := by
  intro s t hR
  obtain ⟨hanswer, hstate, hreturns⟩ := hm s t hR
  unfold catchIf
  rcases hs : m₁ s with ⟨e | a, u⟩ <;> rcases ht : m₂ t with ⟨e' | a', v⟩ <;>
    rw [hs, ht] at hanswer hstate <;> cases hanswer
  · by_cases he : handles e
    · have hnext := hh e u v hstate
      constructor <;> simp only [hs, ht, if_pos he]
      · exact hnext.answer
      · exact hnext.state
      · exact hnext.returns
    · constructor <;> simp only [hs, ht, if_neg he]
      · exact hstate
      · exact fun a ha => nomatch ha
  · constructor <;> simp only [hs, ht]
    · exact hstate
    · exact fun b hb => hreturns b (by rw [hs]; exact hb)

end Agree

end Method
