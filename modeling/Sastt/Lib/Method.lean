import Mathlib.Data.List.Forall2
import Mathlib.Logic.Relation
import Mathlib.Order.Defs.Unbundled

/-!
# Methods of a mutable object that may raise

A method of an object runs on the object's state and either returns or
raises, and in both cases it leaves a state behind: a language with
exceptions does not roll an object back when a method raises, so what the
method did before the raise stays done. `Method ε σ α` is that reading –
the state is threaded through the exception and not dropped with it.

Two kinds of rule are proved about it. *Inversion* (`Method.bind_eq_ok`,
`Method.bind_eq_error`) takes a finished sequence apart into its steps,
which is how a method is read without unfolding its callees. *Frames*
(`Method.Within`) say that the state left behind is related to the state
found by a preorder, whether the method returned or raised; they compose
along every construct of the language, so a frame is proved once per
primitive and holds of every program made of them.
-/

/-- **A method**: from a state, the value returned or the exception raised,
and the state left behind. -/
def Method (ε σ α : Type) : Type := σ → Except ε α × σ

namespace Method

variable {ε σ α β : Type}

instance : Monad (Method ε σ) where
  pure a := fun s => (.ok a, s)
  bind m k := fun s =>
    match m s with
    | (.ok a, t) => k a t
    | (.error e, t) => (.error e, t)

/-- The state as it stands. -/
def read : Method ε σ σ := fun s => (.ok s, s)

/-- Replace the state. -/
def modify (f : σ → σ) : Method ε σ Unit := fun s => (.ok (), f s)

/-- Raise, keeping the state as it stands. -/
def throw (e : ε) : Method ε σ α := fun s => (.error e, s)

/-- Return a value or raise, whichever the computation says. -/
def ofExcept (x : Except ε α) : Method ε σ α := fun s => (x, s)

/-- `try … except`: the exceptions `handles` accepts are handed to `k`, in
the state the failed method left behind. -/
def catchIf (m : Method ε σ α) (handles : ε → Bool) (k : ε → Method ε σ α) :
    Method ε σ α := fun s =>
  match m s with
  | (.ok a, t) => (.ok a, t)
  | (.error e, t) => if handles e then k e t else (.error e, t)

/-- `for x in xs`: the body for each element in turn. -/
def forEach (xs : List α) (body : α → Method ε σ Unit) : Method ε σ Unit :=
  match xs with
  | [] => pure ()
  | x :: xs => do
    body x
    forEach xs body

/-- `for x in xs`, collecting what the body returns. -/
def mapEach (xs : List α) (body : α → Method ε σ β) : Method ε σ (List β) :=
  match xs with
  | [] => pure []
  | x :: xs => do
    let y ← body x
    let ys ← mapEach xs body
    return y :: ys

/-- A method of a part of the object, run on that part. -/
def zoom {τ : Type} (get : τ → σ) (set : τ → σ → τ) (m : Method ε σ α) : Method ε τ α := fun t =>
  ((m (get t)).1, set t (m (get t)).2)

/-! ## Taking a sequence apart -/

section Inversion

variable {m : Method ε σ α} {k : α → Method ε σ β} {s t : σ}

@[simp] theorem pure_apply (a : α) (s : σ) :
    (pure a : Method ε σ α) s = (.ok a, s) := rfl

@[simp] theorem modify_apply (f : σ → σ) (s : σ) :
    (modify f : Method ε σ Unit) s = (.ok (), f s) := rfl

@[simp] theorem ofExcept_apply (x : Except ε α) (s : σ) :
    (ofExcept x : Method ε σ α) s = (x, s) := rfl

/-- What is seen to have returned, returned something. -/
theorem exists_of_isOk {r : Except ε α × σ} (h : r.1.isOk = true) : ∃ a t, r = (.ok a, t) := by
  rcases r with ⟨e | a, t⟩
  · cases h
  · exact ⟨a, t, rfl⟩

theorem ofExcept_eq_ok {x : Except ε α} {a : α} :
    (ofExcept x : Method ε σ α) s = (.ok a, t) ↔ x = .ok a ∧ s = t := Prod.mk.injEq .. ▸ Iff.rfl

/-- A sequence whose first method returned goes on in the state left. -/
theorem bind_of_ok {a : α} (h : m s = (.ok a, t)) : (m >>= k) s = k a t := by
  show (match m s with
    | (.ok a, t) => k a t
    | (.error e, t) => (.error e, t)) = k a t
  rw [h]

/-- A sequence whose first method raised raises, in the state left. -/
theorem bind_of_error {e : ε} (h : m s = (.error e, t)) :
    (m >>= k) s = (.error e, t) := by
  show (match m s with
    | (.ok a, t) => k a t
    | (.error e, t) => (.error e, t)) = (.error e, t)
  rw [h]

/-- Sequences may be grouped either way. -/
theorem bind_assoc {γ : Type} (m : Method ε σ α) (k : α → Method ε σ β) (l : β → Method ε σ γ) :
    (m >>= k) >>= l = m >>= fun a => k a >>= l := by
  funext s
  rcases hm : m s with ⟨e | a, t⟩
  · rw [bind_of_error (bind_of_error hm), bind_of_error hm]
  · rw [bind_of_ok (m := m) hm]
    rcases hk : k a t with ⟨e | b, u⟩
    · rw [bind_of_error ((bind_of_ok hm).trans hk), bind_of_error hk]
    · rw [bind_of_ok ((bind_of_ok hm).trans hk), bind_of_ok hk]

/-- A result that is computed from the value leaves the state as it is. -/
theorem bind_pure_snd (f : α → β) (s : σ) : ((m >>= fun a => pure (f a)) s).2 = (m s).2 := by
  rcases hm : m s with ⟨a | a, t⟩
  · rw [bind_of_error hm]
  · rw [bind_of_ok hm]
    rfl

/-- A result that is computed from the value. -/
theorem bind_pure_fst (f : α → β) (s : σ) :
    ((m >>= fun a => pure (f a)) s).1 = (m s).1.map f := by
  rcases hm : m s with ⟨a | a, t⟩
  · rw [bind_of_error hm]
    rfl
  · rw [bind_of_ok hm]
    rfl

theorem zoom_eq {τ : Type} {get : τ → σ} {set : τ → σ → τ} {r : Except ε α} {x : τ}
    (h : m (get x) = (r, t)) : m.zoom get set x = (r, set x t) := by
  unfold zoom
  rw [h]

/-- Where a method of a part returns, the part is as the method left it. -/
theorem zoom_eq_ok {τ : Type} {get : τ → σ} {set : τ → σ → τ} {x y : τ} {a : α}
    (h : m.zoom get set x = (.ok a, y)) : ∃ t, m (get x) = (.ok a, t) ∧ set x t = y :=
  ⟨(m (get x)).2, Prod.ext (show _ = Except.ok a from congrArg Prod.fst h) rfl,
    congrArg Prod.snd h⟩

@[simp] theorem read_bind (k : σ → Method ε σ β) (s : σ) :
    (read >>= k) s = k s s := rfl

@[simp] theorem modify_bind (f : σ → σ) (k : Unit → Method ε σ β) (s : σ) :
    (modify f >>= k) s = k () (f s) := rfl

@[simp] theorem ofExcept_ok_bind (a : α) (k : α → Method ε σ β) (s : σ) :
    ((ofExcept (.ok a) : Method ε σ α) >>= k) s = k a s := rfl

@[simp] theorem ofExcept_error_bind (e : ε) (k : α → Method ε σ β) (s : σ) :
    ((ofExcept (.error e) : Method ε σ α) >>= k) s = (.error e, s) := rfl

/-- **A sequence returns exactly when both its methods do.** -/
theorem bind_eq_ok {b : β} {u : σ} :
    (m >>= k) s = (.ok b, u) ↔ ∃ a t, m s = (.ok a, t) ∧ k a t = (.ok b, u) := by
  constructor
  · intro h
    rcases hm : m s with ⟨a | a, t⟩
    · rw [bind_of_error hm] at h
      cases h
    · rw [bind_of_ok hm] at h
      exact ⟨a, t, rfl, h⟩
  · rintro ⟨a, t, hm, hk⟩
    rw [bind_of_ok hm, hk]

/-- A sequence raises when its first method does, or else its second. -/
theorem bind_eq_error {e : ε} {u : σ} :
    (m >>= k) s = (.error e, u)
      ↔ m s = (.error e, u) ∨ ∃ a t, m s = (.ok a, t) ∧ k a t = (.error e, u) := by
  constructor
  · intro h
    rcases hm : m s with ⟨a | a, t⟩
    · rw [bind_of_error hm] at h
      cases h
      exact Or.inl rfl
    · rw [bind_of_ok hm] at h
      exact Or.inr ⟨a, t, rfl, h⟩
  · rintro (hm | ⟨a, t, hm, hk⟩)
    · exact bind_of_error hm
    · rw [bind_of_ok hm, hk]

/-- A loop over two lists is the loop over the first and then the second. -/
theorem mapEach_append {xs xs' : List α} {body : α → Method ε σ β} {ys ys' : List β} {u : σ}
    (h : mapEach xs body s = (.ok ys, t)) (h' : mapEach xs' body t = (.ok ys', u)) :
    mapEach (xs ++ xs') body s = (.ok (ys ++ ys'), u) := by
  induction xs generalizing s ys with
  | nil =>
    cases h
    exact h'
  | cons x xs ih =>
    obtain ⟨y, s₁, hx, h⟩ := bind_eq_ok.mp h
    obtain ⟨zs, s₂, hxs, h⟩ := bind_eq_ok.mp h
    cases h
    exact bind_eq_ok.mpr ⟨y, s₁, hx, bind_eq_ok.mpr ⟨zs ++ ys', u, ih hxs, rfl⟩⟩

/-- And the loop over the first is a part of it. -/
theorem mapEach_append_eq_ok {xs xs' : List α} {body : α → Method ε σ β} {zs : List β} {u : σ}
    (h : mapEach (xs ++ xs') body s = (.ok zs, u)) :
    ∃ ys t ys', mapEach xs body s = (.ok ys, t) ∧ mapEach xs' body t = (.ok ys', u)
      ∧ zs = ys ++ ys' := by
  induction xs generalizing s zs with
  | nil => exact ⟨[], s, zs, rfl, h, rfl⟩
  | cons x xs ih =>
    obtain ⟨y, s₁, hx, h⟩ := bind_eq_ok.mp h
    obtain ⟨ys, s₂, hxs, h⟩ := bind_eq_ok.mp h
    cases h
    obtain ⟨ys', t, ys'', hfirst, hrest, rfl⟩ := ih hxs
    exact ⟨y :: ys', t, ys'', bind_eq_ok.mpr ⟨y, s₁, hx, bind_eq_ok.mpr ⟨ys', t, hfirst, rfl⟩⟩,
      hrest, rfl⟩

/-- **A loop that does nothing for some elements is the loop over the others**, while what is
known of the state lasts. -/
theorem forEach_filter {I : σ → Prop} {p : α → Bool} {body body' : α → Method ε σ Unit}
    (hkept : ∀ x s, p x = true → I s → body x s = body' x s)
    (hskipped : ∀ x s, p x = false → I s → body x s = (.ok (), s))
    (hI : ∀ x s t, I s → body' x s = (.ok (), t) → I t) (xs : List α) {s : σ} (hs : I s) :
    forEach xs body s = forEach (xs.filter p) body' s := by
  induction xs generalizing s with
  | nil => rfl
  | cons x xs ih =>
    rw [List.filter_cons]
    split_ifs with hp
    · rcases hstep : body' x s with ⟨e | _, t⟩
      · exact (bind_of_error ((hkept x s hp hs).trans hstep)).trans (bind_of_error hstep).symm
      · have hrest : forEach (x :: xs.filter p) body' s = forEach (xs.filter p) body' t :=
          bind_of_ok hstep
        exact (bind_of_ok ((hkept x s hp hs).trans hstep)).trans
          ((ih (hI x s t hs hstep)).trans hrest.symm)
    · exact (bind_of_ok (hskipped x s (Bool.eq_false_iff.mpr hp) hs)).trans (ih hs)

end Inversion

/-! ## A part of the object -/

section Zoom

variable {τ : Type} {get : τ → σ} {set : τ → σ → τ}

/-- A sequence on a part is a sequence of methods on that part. -/
theorem zoom_bind (hget : ∀ t s, get (set t s) = s) (hset : ∀ t s s', set (set t s) s' = set t s')
    (m : Method ε σ α) (k : α → Method ε σ β) :
    (m >>= k).zoom get set = m.zoom get set >>= fun a => (k a).zoom get set := by
  funext t
  rcases hm : m (get t) with ⟨e | a, s⟩
  · rw [bind_of_error (m := m.zoom get set) (zoom_eq hm)]
    exact zoom_eq (bind_of_error hm)
  · rw [bind_of_ok (m := m.zoom get set) (zoom_eq hm)]
    unfold zoom
    rw [bind_of_ok hm, hget, hset]

/-- So is a loop. -/
theorem zoom_mapEach (hget : ∀ t s, get (set t s) = s)
    (hset : ∀ t s s', set (set t s) s' = set t s') (hsame : ∀ t, set t (get t) = t)
    (xs : List α) (body : α → Method ε σ β) :
    (mapEach xs body).zoom get set = mapEach xs fun x => (body x).zoom get set := by
  have hpure : ∀ ys : List β, (pure ys : Method ε σ (List β)).zoom get set = pure ys := fun ys =>
    funext (fun t => Prod.ext rfl (hsame t))
  induction xs with
  | nil => exact hpure []
  | cons x xs ih =>
    unfold mapEach
    rw [zoom_bind hget hset, ← ih]
    refine congrArg (_ >>= ·) (funext (fun y => ?_))
    rw [zoom_bind hget hset]
    exact congrArg (_ >>= ·) (funext (fun ys => hpure _))

end Zoom

/-! ## Frames

A frame is a preorder on states that every run of a method stays inside.
The relation is asked of the state left behind in both outcomes, which is
what makes it compose through `catchIf`. -/

/-- **The method stays inside `R`**: whatever the outcome, the state left
behind is `R`-related to the state found. -/
def Within (R : σ → σ → Prop) (m : Method ε σ α) : Prop := ∀ s, R s (m s).2

section Frames

variable {R : σ → σ → Prop}

/-- The state a run of the method left is related to the state it found. -/
theorem Within.rel {m : Method ε σ α} (h : Within R m) {s t : σ} {r : Except ε α}
    (hm : m s = (r, t)) : R s t := by
  have hs := h s
  rwa [hm] at hs

theorem within_pure [Std.Refl R] (a : α) :
    Within R (pure a : Method ε σ α) := fun s => Std.Refl.refl s

theorem within_read [Std.Refl R] : Within R (read : Method ε σ σ) :=
  fun s => Std.Refl.refl s

theorem within_throw [Std.Refl R] (e : ε) :
    Within R (throw e : Method ε σ α) := fun s => Std.Refl.refl s

theorem within_ofExcept [Std.Refl R] (x : Except ε α) :
    Within R (ofExcept x : Method ε σ α) := fun s => Std.Refl.refl s

theorem within_modify {f : σ → σ} (h : ∀ s, R s (f s)) :
    Within R (modify f : Method ε σ Unit) := h

/-- A sequence stays inside a frame where its first method does. -/
theorem rel_bind [IsTrans σ R] {m : Method ε σ α} {k : α → Method ε σ β} {s : σ}
    (hm : R s (m s).2) (hk : ∀ a, Within R (k a)) : R s ((m >>= k) s).2 := by
  rcases hms : m s with ⟨a | a, t⟩
  · rw [bind_of_error hms]
    rwa [hms] at hm
  · rw [bind_of_ok hms]
    rw [hms] at hm
    exact IsTrans.trans s t _ hm (hk a t)

/-- **Frames compose along a sequence.** -/
theorem within_bind [IsTrans σ R] {m : Method ε σ α} {k : α → Method ε σ β}
    (hm : Within R m) (hk : ∀ a, Within R (k a)) : Within R (m >>= k) :=
  fun s => rel_bind (hm s) hk

/-- The first two methods of a sequence may stay inside together. -/
theorem within_bind_two [IsTrans σ R] {γ : Type} {m : Method ε σ α} {k : α → Method ε σ β}
    {l : β → Method ε σ γ} (hmk : Within R (m >>= k)) (hl : ∀ b, Within R (l b)) :
    Within R (m >>= fun a => k a >>= l) := bind_assoc m k l ▸ within_bind hmk hl

/-- Where a sequence stops inside the frame of its first method: at that, or in
the second, from a state the frame leads to. -/
theorem Within.bind_cases {m : Method ε σ α} {k : α → Method ε σ β} (h : Within R m) (s : σ) :
    (∃ e t, R s t ∧ (m >>= k) s = (.error e, t))
      ∨ ∃ a t, R s t ∧ m s = (.ok a, t) ∧ (m >>= k) s = k a t := by
  rcases hms : m s with ⟨e | a, t⟩
  · exact Or.inl ⟨e, t, h.rel hms, bind_of_error hms⟩
  · exact Or.inr ⟨a, t, h.rel hms, rfl, bind_of_ok hms⟩

/-- A computation that did not raise is as good as its value. -/
theorem within_ofExcept_ok_bind {a : α} {k : α → Method ε σ β} (hk : Within R (k a)) :
    Within R ((ofExcept (.ok a) : Method ε σ α) >>= k) := fun s => hk s

/-- A handler runs in the state the failed method left, so the frame of
the whole is the frame of both. -/
theorem within_catchIf [IsTrans σ R] {m : Method ε σ α} {handles : ε → Bool}
    {k : ε → Method ε σ α} (hm : Within R m) (hk : ∀ e, Within R (k e)) :
    Within R (m.catchIf handles k) := by
  intro s
  have h := hm s
  unfold catchIf
  rcases hms : m s with ⟨e | a, t⟩ <;> rw [hms] at h
  · by_cases hh : handles e = true
    · simp only [hh, if_true]
      exact IsTrans.trans s t _ h (hk e t)
    · simp only [hh, if_false, Bool.false_eq_true]
      exact h
  · exact h

/-- A loop stays inside a frame when its body does. -/
theorem within_forEach [Std.Refl R] [IsTrans σ R] {xs : List α}
    {body : α → Method ε σ Unit} (h : ∀ x ∈ xs, Within R (body x)) :
    Within R (forEach xs body) := by
  induction xs with
  | nil => exact within_pure ()
  | cons x xs ih =>
    exact within_bind (h x List.mem_cons_self)
      (fun _ => ih (fun y hy => h y (List.mem_cons_of_mem x hy)))

theorem within_mapEach [Std.Refl R] [IsTrans σ R] {xs : List α}
    {body : α → Method ε σ β} (h : ∀ x ∈ xs, Within R (body x)) :
    Within R (mapEach xs body) := by
  induction xs with
  | nil => exact within_pure []
  | cons x xs ih =>
    refine within_bind (h x List.mem_cons_self) (fun _ => within_bind ?_ (fun _ => within_pure _))
    exact ih (fun y hy => h y (List.mem_cons_of_mem x hy))

/-- A frame may look at a part of the state only. -/
instance {τ : Type} [Std.Refl R] (part : τ → σ) : Std.Refl (InvImage R part) where
  refl t := Std.Refl.refl (part t)

/-- A method that works on another part of the state stays inside. -/
theorem within_zoom_other {τ υ : Type} [Std.Refl R] {part : τ → σ} {get : τ → υ}
    {set : τ → υ → τ} (m : Method ε υ α) (hset : ∀ t u, part (set t u) = part t) :
    Within (InvImage R part) (m.zoom get set) := fun t => by
  show R (part t) (part (set t _))
  rw [hset]
  exact Std.Refl.refl (part t)

theorem within_zoom {τ : Type} {R' : τ → τ → Prop} {get : τ → σ} {set : τ → σ → τ}
    {m : Method ε σ α} (hm : Within R m) (hset : ∀ t s, R (get t) s → R' t (set t s)) :
    Within R' (m.zoom get set) := fun t => hset t _ (hm (get t))

/-- **What a loop collects.** What the body establishes about an element and
its result, from a state in `P`, holds of all of them in the state the loop
leaves, provided that the frame of the body keeps it. -/
theorem forall₂_of_mapEach [Std.Refl R] [IsTrans σ R] {P : σ → Prop} {Q : α → β → σ → Prop}
    {xs : List α} {body : α → Method ε σ β} (hin : ∀ x ∈ xs, Within R (body x))
    (hP : ∀ s t, R s t → P s → P t) (hQ : ∀ x y s t, R s t → P s → Q x y s → Q x y t)
    (hbody : ∀ x ∈ xs, ∀ s y t, P s → body x s = (.ok y, t) → Q x y t) {s t : σ} {ys : List β}
    (hs : P s) (h : mapEach xs body s = (.ok ys, t)) :
    List.Forall₂ (fun x y => Q x y t) xs ys := by
  induction xs generalizing s ys with
  | nil =>
    cases h
    exact List.Forall₂.nil
  | cons x xs ih =>
    obtain ⟨y, s₁, hx, h⟩ := bind_eq_ok.mp h
    obtain ⟨zs, s₂, hxs, h⟩ := bind_eq_ok.mp h
    cases h
    have hrest := fun y hy => hin y (List.mem_cons_of_mem x hy)
    have hs₁ : R s s₁ := by
      have := hin x List.mem_cons_self s
      rwa [hx] at this
    have ht : R s₁ t := by
      have := within_mapEach hrest s₁
      rwa [hxs] at this
    refine List.Forall₂.cons (hQ x y s₁ t ht (hP s s₁ hs₁ hs)
      (hbody x List.mem_cons_self s y s₁ hs hx)) ?_
    exact ih hrest (fun y hy => hbody y (List.mem_cons_of_mem x hy)) (hP s s₁ hs₁ hs) hxs

/-- What the body does for each element is done for all of them. -/
theorem forall_of_mapEach [Std.Refl R] [IsTrans σ R] {Q : α → σ → Prop} {xs : List α}
    {body : α → Method ε σ β} (hin : ∀ x ∈ xs, Within R (body x))
    (hQ : ∀ x s t, R s t → Q x s → Q x t)
    (hbody : ∀ x ∈ xs, ∀ s y t, body x s = (.ok y, t) → Q x t) {s t : σ} {ys : List β}
    (h : mapEach xs body s = (.ok ys, t)) : ∀ x ∈ xs, Q x t := by
  have hall := forall₂_of_mapEach (P := fun _ => True) (Q := fun x _ => Q x) hin
    (fun _ _ _ _ => trivial) (fun x _ s t hst _ => hQ x s t hst)
    (fun x hx s y t _ => hbody x hx s y t) trivial h
  exact (List.forall₂_and_left (R := fun _ _ => True) xs ys).mp
    (hall.imp (fun _ _ hx => ⟨hx, trivial⟩)) |>.1

/-- **Where a loop raises**: at one of its elements, in a state that the frame
of the body leads to. -/
theorem mapEach_error [Std.Refl R] [IsTrans σ R] {xs : List α} {body : α → Method ε σ β}
    (hin : ∀ x ∈ xs, Within R (body x)) {s : σ} {e : ε} (h : (mapEach xs body s).1 = .error e) :
    ∃ x ∈ xs, ∃ t, R s t ∧ (body x t).1 = .error e := by
  induction xs generalizing s with
  | nil => cases h
  | cons x xs ih =>
    have hR := hin x List.mem_cons_self s
    rcases hx : body x s with ⟨e' | y, t⟩
    · rw [mapEach, bind_of_error hx] at h
      cases h
      exact ⟨x, List.mem_cons_self, s, Std.Refl.refl s, by rw [hx]⟩
    · rw [hx] at hR
      rw [mapEach, bind_of_ok hx] at h
      have hrest : (mapEach xs body t).1 = .error e := by
        rcases hxs : mapEach xs body t with ⟨e' | ys, u⟩
        · rw [bind_of_error hxs] at h
          exact h
        · rw [bind_of_ok hxs] at h
          cases h
      obtain ⟨x', hx', t', hR', hraised⟩ :=
        ih (fun y hy => hin y (List.mem_cons_of_mem x hy)) hrest
      exact ⟨x', List.mem_cons_of_mem x hx', t', IsTrans.trans s t t' hR hR', hraised⟩

/-- Two relations that hold along two lists hold together. -/
theorem forall₂_and {S S' : α → β → Prop} {xs : List α} {ys : List β} (h : List.Forall₂ S xs ys)
    (h' : List.Forall₂ S' xs ys) : List.Forall₂ (fun x y => S x y ∧ S' x y) xs ys := by
  induction h with
  | nil => exact List.Forall₂.nil
  | cons hone hrest ih =>
    obtain ⟨hone', hrest'⟩ := List.forall₂_cons.mp h'
    exact List.Forall₂.cons ⟨hone, hone'⟩ (ih hrest')

/-- What is collected comes from an element of the loop. -/
theorem exists_of_forall₂ {S : α → β → Prop} {xs : List α} {ys : List β}
    (h : List.Forall₂ S xs ys) {y : β} (hy : y ∈ ys) : ∃ x ∈ xs, S x y := by
  induction h with
  | nil => exact absurd hy List.not_mem_nil
  | cons hxy _ ih =>
    rcases List.mem_cons.mp hy with rfl | hy
    · exact ⟨_, List.mem_cons_self, hxy⟩
    · obtain ⟨x, hx, hxy'⟩ := ih hy
      exact ⟨x, List.mem_cons_of_mem _ hx, hxy'⟩

end Frames

/-! ## What a method raises -/

/-- **Whatever the method raises is in `E`**, from every state. -/
def Raises (E : ε → Prop) (m : Method ε σ α) : Prop := ∀ s e, (m s).1 = .error e → E e

section Raises

variable {E : ε → Prop}

theorem raises_pure (a : α) : Raises E (pure a : Method ε σ α) := fun _ _ h => nomatch h

theorem raises_read : Raises E (read : Method ε σ σ) := fun _ _ h => nomatch h

theorem raises_modify (f : σ → σ) : Raises E (modify f : Method ε σ Unit) :=
  fun _ _ h => nomatch h

theorem raises_throw {e : ε} (h : E e) : Raises E (throw e : Method ε σ α) := by
  rintro _ _ ⟨⟩
  exact h

theorem raises_ofExcept {x : Except ε α} (h : ∀ e, x = .error e → E e) :
    Raises E (ofExcept x : Method ε σ α) := fun _ => h

theorem raises_bind {m : Method ε σ α} {k : α → Method ε σ β} (hm : Raises E m)
    (hk : ∀ a, Raises E (k a)) : Raises E (m >>= k) := by
  intro s e h
  rcases hs : m s with ⟨e' | a, t⟩
  · rw [bind_of_error hs] at h
    cases h
    exact hm s e (by rw [hs])
  · rw [bind_of_ok hs] at h
    exact hk a t e h

theorem Raises.mono {E' : ε → Prop} {m : Method ε σ α} (hm : Raises E m) (hE : ∀ e, E e → E' e) :
    Raises E' m := fun s e h => hE e (hm s e h)

theorem raises_mapEach {xs : List α} {body : α → Method ε σ β}
    (h : ∀ x ∈ xs, Raises E (body x)) : Raises E (mapEach xs body) := by
  induction xs with
  | nil => exact raises_pure []
  | cons x xs ih =>
    exact raises_bind (h x List.mem_cons_self) (fun _ =>
      raises_bind (ih (fun y hy => h y (List.mem_cons_of_mem x hy))) (fun _ => raises_pure _))

theorem raises_zoom {τ : Type} {get : τ → σ} {set : τ → σ → τ} {m : Method ε σ α}
    (hm : Raises E m) : Raises E (m.zoom get set) := fun t => hm (get t)

end Raises

/-! ## What an expression raises -/

/-- **If the expression raises, it raises something in `E`.** -/
def Fails (E : ε → Prop) (x : Except ε α) : Prop := ∀ e, x = .error e → E e

section Fails

variable {E : ε → Prop} {x : Except ε α} {f : α → Except ε β}

theorem fails_ok (a : α) : Fails E (.ok a : Except ε α) := fun _ h => nomatch h

theorem fails_error {e : ε} (h : E e) : Fails E (.error e : Except ε α) := by
  rintro _ ⟨⟩
  exact h

theorem fails_bind (hx : Fails E x) (hf : ∀ a, Fails E (f a)) : Fails E (x >>= f) := by
  cases x with
  | error e => exact fails_error (hx e rfl)
  | ok a => exact hf a

/-- **The inversion of a sequence of two expressions.** -/
theorem except_bind_eq_ok {b : β} : (x >>= f) = .ok b ↔ ∃ a, x = .ok a ∧ f a = .ok b := by
  cases x with
  | error e => exact iff_of_false nofun (fun ⟨_, h, _⟩ => nomatch h)
  | ok a => exact ⟨fun h => ⟨a, rfl, h⟩, fun ⟨_, ha, h⟩ => Except.ok.inj ha ▸ h⟩

theorem except_map_eq_ok {g : α → β} {b : β} : x.map g = .ok b ↔ ∃ a, x = .ok a ∧ g a = b := by
  cases x with
  | error e => exact iff_of_false nofun (fun ⟨_, h, _⟩ => nomatch h)
  | ok a => exact ⟨fun h => ⟨a, rfl, Except.ok.inj h⟩, fun ⟨_, ha, h⟩ =>
      congrArg Except.ok (Except.ok.inj ha ▸ h)⟩

theorem fails_mapM {xs : List α} (h : ∀ x ∈ xs, Fails E (f x)) : Fails E (xs.mapM f) := by
  induction xs with
  | nil => exact fails_ok []
  | cons x xs ih =>
    rw [List.mapM_cons]
    exact fails_bind (h x List.mem_cons_self) (fun _ =>
      fails_bind (ih (fun y hy => h y (List.mem_cons_of_mem x hy))) (fun _ => fails_ok _))

/-- If nothing fails, all results are there. -/
theorem mapM_of_ok {g : α → β} {xs : List α} (h : ∀ x ∈ xs, f x = .ok (g x)) :
    xs.mapM f = .ok (xs.map g) := by
  induction xs with
  | nil => rfl
  | cons x xs ih =>
    rw [List.mapM_cons, h x List.mem_cons_self, ih (fun y hy => h y (List.mem_cons_of_mem x hy))]
    rfl

/-- The results are those of the expressions, in their order. -/
theorem forall₂_of_mapM {xs : List α} {ys : List β} (h : xs.mapM f = .ok ys) :
    List.Forall₂ (fun x y => f x = .ok y) xs ys := by
  induction xs generalizing ys with
  | nil =>
    cases h
    exact List.Forall₂.nil
  | cons x xs ih =>
    rw [List.mapM_cons] at h
    obtain ⟨y, hx, h⟩ := except_bind_eq_ok.mp h
    obtain ⟨ys', hxs, h⟩ := except_bind_eq_ok.mp h
    cases h
    exact List.Forall₂.cons hx (ih hxs)

/-- A result that is there is the result of one of the expressions. -/
theorem mem_of_mapM {xs : List α} {ys : List β} {y : β} (h : xs.mapM f = .ok ys) (hy : y ∈ ys) :
    ∃ x ∈ xs, f x = .ok y := exists_of_forall₂ (forall₂_of_mapM h) hy

/-- What is read of each element one by one is read of the list. -/
theorem exists_mapM_of_forall₂ {γ : Type} {S : γ → β → Prop} {xs : List γ} {ys : List α}
    (h : List.Forall₂ (fun x y => ∃ z, f y = .ok z ∧ S x z) xs ys) :
    ∃ zs, ys.mapM f = .ok zs ∧ List.Forall₂ S xs zs := by
  induction h with
  | nil => exact ⟨[], rfl, .nil⟩
  | cons hhead _ ih =>
    obtain ⟨z, hz, hS⟩ := hhead
    obtain ⟨zs, hzs, hrest⟩ := ih
    refine ⟨z :: zs, ?_, .cons hS hrest⟩
    rw [List.mapM_cons, hz, hzs]
    rfl

end Fails

/-! ## What a method returns -/

/-- **Whatever the method returns is in `P`**, from every state. -/
def Returns (P : α → Prop) (m : Method ε σ α) : Prop := ∀ s a t, m s = (.ok a, t) → P a

section Returns

variable {P : α → Prop} {Q : β → Prop}

theorem returns_pure {a : α} (h : P a) : Returns P (pure a : Method ε σ α) := by
  rintro _ _ _ ⟨⟩
  exact h

theorem returns_ofExcept {x : Except ε α} (h : ∀ a, x = .ok a → P a) :
    Returns P (ofExcept x : Method ε σ α) := fun _ a _ hx => h a (ofExcept_eq_ok.mp hx).1

theorem returns_of_true (m : Method ε σ α) : Returns (fun _ => True) m := fun _ _ _ _ => trivial

/-- **What a sequence returns** is what its second method returns, of what the
first did. -/
theorem returns_bind {m : Method ε σ α} {k : α → Method ε σ β} (hm : Returns P m)
    (hk : ∀ a, P a → Returns Q (k a)) : Returns Q (m >>= k) := by
  intro s b u h
  obtain ⟨a, t, hms, hk'⟩ := bind_eq_ok.mp h
  exact hk a (hm s a t hms) t b u hk'

theorem returns_catchIf {m : Method ε σ α} {handles : ε → Bool} {k : ε → Method ε σ α}
    (hm : Returns P m) (hk : ∀ e, Returns P (k e)) : Returns P (m.catchIf handles k) := by
  intro s a u h
  unfold catchIf at h
  rcases hms : m s with ⟨e | b, t⟩ <;> rw [hms] at h <;> dsimp only at h
  · split at h
    · exact hk e t a u h
    · cases h
  · cases h
    exact hm s a u hms

theorem returns_zoom {τ : Type} {get : τ → σ} {set : τ → σ → τ} {m : Method ε σ α}
    (hm : Returns P m) : Returns P (m.zoom get set) := by
  intro s a u h
  have hfst : (m (get s)).1 = .ok a := congrArg Prod.fst h
  exact hm (get s) a (m (get s)).2 (Prod.ext hfst rfl)

/-- A loop collects one result for each element. -/
theorem returns_mapEach {S : α → β → Prop} {xs : List α} {body : α → Method ε σ β}
    (h : ∀ x ∈ xs, Returns (S x) (body x)) :
    Returns (fun ys => List.Forall₂ S xs ys) (mapEach xs body) := by
  induction xs with
  | nil => exact returns_pure List.Forall₂.nil
  | cons x xs ih =>
    refine returns_bind (h x List.mem_cons_self) (fun y hy => ?_)
    refine returns_bind (ih (fun z hz => h z (List.mem_cons_of_mem x hz))) (fun ys hys => ?_)
    exact returns_pure (List.Forall₂.cons hy hys)

end Returns

end Method
