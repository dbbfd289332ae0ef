import Sastt.Lib.Method

/-!
# Methods over a larger state

A program may be written a second time over a state that holds more than the
first: a record of what it has done, or of what it was told. The second
*refines* the first when it returns or raises what the first does and leaves
the part of the state the first is about as the first leaves it. Refinement
goes along every construct of the language, so it is proved method by method,
each from those it calls; what the second writes down besides is passed over
(`refines_note_bind`).
-/

namespace Method

variable {ε σ τ α β : Type}

/-- **`m'` does to a part of its state what `m` does.** -/
def Refines (part : τ → σ) (m' : Method ε τ α) (m : Method ε σ α) : Prop :=
  ∀ t, (m' t).1 = (m (part t)).1 ∧ part (m' t).2 = (m (part t)).2

/-- `Refines`, in one state. -/
def RefinesAt (part : τ → σ) (m' : Method ε τ α) (m : Method ε σ α) (t : τ) : Prop :=
  (m' t).1 = (m (part t)).1 ∧ part (m' t).2 = (m (part t)).2

section

variable {part : τ → σ}

theorem refines_ofExcept (x : Except ε α) : Refines part (ofExcept x) (ofExcept x) :=
  fun _ => ⟨rfl, rfl⟩

theorem refines_pure (a : α) : Refines part (pure a : Method ε τ α) (pure a) :=
  fun _ => ⟨rfl, rfl⟩

theorem refines_throw (e : ε) : Refines part (throw e : Method ε τ α) (throw e) :=
  fun _ => ⟨rfl, rfl⟩

theorem refines_zoom {set : τ → σ → τ} (m : Method ε σ α) (hset : ∀ t s, part (set t s) = s) :
    Refines part (m.zoom part set) m := fun t => ⟨rfl, hset t _⟩

/-- A sequence refines a sequence in one state, if its second method does in the
state the first leaves. -/
theorem refinesAt_bind {m' : Method ε τ α} {m : Method ε σ α} {k' : α → Method ε τ β}
    {k : α → Method ε σ β} {t : τ} (hm : RefinesAt part m' m t)
    (hk : ∀ a t', m' t = (.ok a, t') → RefinesAt part (k' a) (k a) t') :
    RefinesAt part (m' >>= k') (m >>= k) t := by
  obtain ⟨hfst, hsnd⟩ := hm
  rcases hrun' : m' t with ⟨r, t'⟩
  rcases hrun : m (part t) with ⟨r₁, s⟩
  rw [hrun', hrun] at hfst hsnd
  replace hfst : r = r₁ := hfst
  replace hsnd : part t' = s := hsnd
  subst hfst hsnd
  unfold RefinesAt
  cases r with
  | error e =>
    rw [bind_of_error hrun', bind_of_error hrun]
    exact ⟨rfl, rfl⟩
  | ok a =>
    rw [bind_of_ok hrun', bind_of_ok hrun]
    exact hk a t' hrun'

theorem refines_bind {m' : Method ε τ α} {m : Method ε σ α} {k' : α → Method ε τ β}
    {k : α → Method ε σ β} (hm : Refines part m' m) (hk : ∀ a, Refines part (k' a) (k a)) :
    Refines part (m' >>= k') (m >>= k) := fun t =>
  refinesAt_bind (hm t) (fun a t' _ => hk a t')

/-- What is read of the part may be read of the whole. -/
theorem refinesAt_read_bind {k' : τ → Method ε τ β} {k : σ → Method ε σ β} {t : τ}
    (hk : RefinesAt part (k' t) (k (part t)) t) :
    RefinesAt part (read >>= k') (read >>= k) t := hk

theorem refines_read_bind {k' : τ → Method ε τ β} {k : σ → Method ε σ β}
    (hk : ∀ t, Refines part (k' t) (k (part t))) :
    Refines part (read >>= k') (read >>= k) := fun t => refinesAt_read_bind (hk t t)

/-- What is written down besides is passed over. -/
theorem refines_note_bind {a : α} {m' : Method ε τ α} {k' : α → Method ε τ β} {m : Method ε σ β}
    (hnote : ∀ t, ∃ t', m' t = (.ok a, t') ∧ part t' = part t) (hk : Refines part (k' a) m) :
    Refines part (m' >>= k') m := by
  intro t
  obtain ⟨t', hrun, hpart⟩ := hnote t
  rw [bind_of_ok hrun, ← hpart]
  exact hk t'

/-- What is written down at the end is passed over too. -/
theorem refines_then {m' : Method ε τ α} {note : Method ε τ Unit} {m : Method ε σ α}
    (hm : Refines part m' m) (hnote : ∀ t, ∃ t', note t = (.ok (), t') ∧ part t' = part t) :
    Refines part (m' >>= fun a => note >>= fun _ => pure a) m := by
  have hpure : (m >>= fun a => pure a) = m := by
    funext s
    rcases hrun : m s with ⟨e | a, t⟩
    · rw [bind_of_error hrun]
    · rw [bind_of_ok hrun]
      rfl
  rw [← hpure]
  exact refines_bind hm (fun a => refines_note_bind hnote (refines_pure a))

theorem refines_catchIf {m' : Method ε τ α} {m : Method ε σ α} {handles : ε → Bool}
    {k' : ε → Method ε τ α} {k : ε → Method ε σ α} (hm : Refines part m' m)
    (hk : ∀ e, Refines part (k' e) (k e)) :
    Refines part (m'.catchIf handles k') (m.catchIf handles k) := by
  intro t
  obtain ⟨hfst, hsnd⟩ := hm t
  unfold catchIf
  rcases hrun' : m' t with ⟨r, t'⟩
  rcases hrun : m (part t) with ⟨r₁, s⟩
  rw [hrun', hrun] at hfst hsnd
  replace hfst : r = r₁ := hfst
  replace hsnd : part t' = s := hsnd
  subst hfst hsnd
  cases r with
  | error e =>
    dsimp only
    split
    · exact hk e t'
    · exact ⟨rfl, rfl⟩
  | ok a => exact ⟨rfl, rfl⟩

theorem refines_forEach {xs : List α} {body' : α → Method ε τ Unit} {body : α → Method ε σ Unit}
    (h : ∀ x, Refines part (body' x) (body x)) :
    Refines part (forEach xs body') (forEach xs body) := by
  induction xs with
  | nil => exact refines_pure ()
  | cons x xs ih => exact refines_bind (h x) (fun _ => ih)

theorem refines_mapEach {xs : List α} {body' : α → Method ε τ β} {body : α → Method ε σ β}
    (h : ∀ x, Refines part (body' x) (body x)) :
    Refines part (mapEach xs body') (mapEach xs body) := by
  induction xs with
  | nil => exact refines_pure []
  | cons x xs ih =>
    exact refines_bind (h x) (fun y => refines_bind ih (fun ys => refines_pure (y :: ys)))

end

/-! ## Methods of a part of the part -/

section Zoom

variable {ρ : Type} {part : τ → σ} {get : σ → ρ} {set : σ → ρ → σ}

/-- What leaves the part of the part alone, leaves the part alone. -/
theorem zoom_ofExcept (hself : ∀ s, set s (get s) = s) (x : Except ε α) :
    (ofExcept x : Method ε ρ α).zoom get set = ofExcept x := by
  funext s
  exact Prod.ext rfl (hself s)

theorem refines_zoom_bind (hget : ∀ s r, get (set s r) = r)
    (hset : ∀ s r r', set (set s r) r' = set s r') {m' : Method ε τ α} {m : Method ε ρ α}
    {k' : α → Method ε τ β} {k : α → Method ε ρ β} (hm : Refines part m' (m.zoom get set))
    (hk : ∀ a, Refines part (k' a) ((k a).zoom get set)) :
    Refines part (m' >>= k') ((m >>= k).zoom get set) := by
  rw [zoom_bind hget hset]
  exact refines_bind hm hk

theorem refines_zoom_read_bind {k' : τ → Method ε τ β} {k : ρ → Method ε ρ β}
    (hk : ∀ t, Refines part (k' t) ((k (get (part t))).zoom get set)) :
    Refines part (read >>= k') ((read >>= k).zoom get set) := fun t => hk t t

theorem refines_zoom_ofExcept (hself : ∀ s, set s (get s) = s) {m' : Method ε τ α}
    {x : Except ε α} (hm : Refines part m' (ofExcept x)) :
    Refines part m' ((ofExcept x : Method ε ρ α).zoom get set) := by
  rw [zoom_ofExcept hself]
  exact hm

theorem refines_zoom_forEach (hget : ∀ s r, get (set s r) = r)
    (hset : ∀ s r r', set (set s r) r' = set s r') (hself : ∀ s, set s (get s) = s)
    {xs : List α} {body' : α → Method ε τ Unit} {body : α → Method ε ρ Unit}
    (h : ∀ x, Refines part (body' x) ((body x).zoom get set)) :
    Refines part (forEach xs body') ((forEach xs body).zoom get set) := by
  induction xs with
  | nil => exact refines_zoom_ofExcept hself (refines_pure ())
  | cons x xs ih => exact refines_zoom_bind hget hset (h x) (fun _ => ih)

theorem refines_zoom_mapEach (hget : ∀ s r, get (set s r) = r)
    (hset : ∀ s r r', set (set s r) r' = set s r') (hself : ∀ s, set s (get s) = s)
    {xs : List α} {body' : α → Method ε τ β} {body : α → Method ε ρ β}
    (h : ∀ x, Refines part (body' x) ((body x).zoom get set)) :
    Refines part (mapEach xs body') ((mapEach xs body).zoom get set) := by
  rw [zoom_mapEach hget hset hself]
  exact refines_mapEach h

end Zoom

/-! ## Expressions as methods -/

theorem ofExcept_bind (x : Except ε α) (f : α → Except ε β) :
    (ofExcept (x >>= f) : Method ε σ β) = ofExcept x >>= fun a => ofExcept (f a) := by
  funext s
  cases x with
  | error e => rfl
  | ok a => rfl

/-- An expression that catches exceptions of its own. -/
theorem ofExcept_catchIf {x : Except ε α} {y : Except ε β} {handles : ε → Bool} {f : α → β}
    {b : β} (hok : ∀ a, x = .ok a → y = .ok (f a))
    (herror : ∀ e, x = .error e → y = if handles e then .ok b else .error e) :
    (ofExcept y : Method ε σ β) = (f <$> ofExcept x).catchIf handles fun _ => pure b := by
  funext s
  cases x with
  | ok a => rw [hok a rfl]; rfl
  | error e =>
    rw [herror e rfl]
    show (if _ then _ else _, s) = (if _ then _ else _)
    split
    · rfl
    · rfl

/-- A loop that needs no state. -/
theorem ofExcept_mapM (xs : List α) (f : α → Except ε β) :
    (ofExcept (xs.mapM f) : Method ε σ (List β)) = mapEach xs fun x => ofExcept (f x) := by
  induction xs with
  | nil => rfl
  | cons x xs ih =>
    rw [List.mapM_cons, ofExcept_bind]
    refine congrArg (_ >>= ·) (funext (fun y => ?_))
    rw [ofExcept_bind, ih]
    rfl

end Method
