import Sastt.Lib.Method

/-!
# What a method writes to a log

An object may keep a log that its methods only append to. `Writes log m Q E`
says what a method appends: with what it returns, entries in `Q`, and with what
it raises, entries in `E`. What a sequence writes is what its methods write, one
after the other; what is written before a handler is entered stays written, so
a retry has the entries of the attempt that failed in front of its own
(`writes_catchIf`).
-/

namespace Method

variable {ε σ ν α β : Type}

/-- **What a method appends to the log**, if it returns and if it raises. -/
def Writes (log : σ → List ν) (m : Method ε σ α) (Q : α → List ν → Prop)
    (E : ε → List ν → Prop) : Prop :=
  ∀ s, ∃ new, log (m s).2 = log s ++ new ∧ (∀ a, (m s).1 = .ok a → Q a new)
    ∧ ∀ e, (m s).1 = .error e → E e new

variable {log : σ → List ν} {m : Method ε σ α} {k : α → Method ε σ β} {Q Q' : α → List ν → Prop}
  {K : β → List ν → Prop} {E E' : ε → List ν → Prop}

/-- The rule of consequence. -/
theorem Writes.weaken (h : Writes log m Q E) (hQ : ∀ a new, Q a new → Q' a new)
    (hE : ∀ e new, E e new → E' e new) : Writes log m Q' E' := by
  intro s
  obtain ⟨new, hnew, hok, herror⟩ := h s
  exact ⟨new, hnew, fun a ha => hQ a new (hok a ha), fun e he => hE e new (herror e he)⟩

/-- Two things that are known of what a method appends. -/
theorem Writes.and {P : α → List ν → Prop} {F : ε → List ν → Prop} (h : Writes log m Q E)
    (h' : Writes log m P F) :
    Writes log m (fun a new => Q a new ∧ P a new) (fun e new => E e new ∧ F e new) := by
  intro s
  obtain ⟨new, hnew, hok, herror⟩ := h s
  obtain ⟨new', hnew', hok', herror'⟩ := h' s
  obtain rfl : new = new' := List.append_cancel_left (hnew.symm.trans hnew')
  exact ⟨new, hnew, fun a ha => ⟨hok a ha, hok' a ha⟩, fun e he => ⟨herror e he, herror' e he⟩⟩

theorem writes_pure {a : α} (h : Q a []) : Writes log (pure a : Method ε σ α) Q E := by
  refine fun s => ⟨[], (List.append_nil _).symm, ?_, nofun⟩
  rintro _ ⟨⟩
  exact h

/-- A method that writes nothing. -/
theorem writes_silent (hlog : ∀ s, log (m s).2 = log s) (hok : Returns (fun a => Q a []) m)
    (herror : Raises (fun e => E e []) m) : Writes log m Q E := fun s =>
  ⟨[], by rw [hlog, List.append_nil], fun a ha => hok s a (m s).2 (Prod.ext ha rfl),
    fun e he => herror s e he⟩

/-- **The rule of a sequence.** -/
theorem writes_bind (hm : Writes log m Q E)
    (hk : ∀ a old, Q a old →
      Writes log (k a) (fun b new => K b (old ++ new)) (fun e new => E e (old ++ new))) :
    Writes log (m >>= k) K E := by
  intro s
  obtain ⟨old, hold, hok, herror⟩ := hm s
  rcases hrun : m s with ⟨e | a, t⟩
  · rw [hrun] at hold herror
    rw [bind_of_error hrun]
    refine ⟨old, hold, nofun, ?_⟩
    rintro _ ⟨⟩
    exact herror e rfl
  · rw [hrun] at hold hok
    rw [bind_of_ok hrun]
    obtain ⟨new, hnew, hok', herror'⟩ := hk a old (hok a rfl) t
    exact ⟨old ++ new, by rw [hnew, hold, List.append_assoc], hok', herror'⟩

/-- A sequence that begins with a method that writes nothing. -/
theorem writes_silent_bind (hlog : ∀ s, log (m s).2 = log s)
    (herror : Raises (fun e => E e []) m) (hk : ∀ a, Writes log (k a) K E) :
    Writes log (m >>= k) K E := by
  refine writes_bind (writes_silent (Q := fun _ new => new = []) hlog (fun _ _ _ _ => rfl) herror)
    ?_
  rintro a _ rfl
  exact hk a

/-- One that begins by reading the state. -/
theorem writes_read_bind {k : σ → Method ε σ β} (hk : ∀ s, Writes log (k s) K E) :
    Writes log (read >>= k) K E := fun s => hk s s

/-- One that begins by writing an entry. -/
theorem writes_note_bind {n : ν} {m : Method ε σ α} {a : α}
    (hm : ∀ s, ∃ t, m s = (.ok a, t) ∧ log t = log s ++ [n])
    (hk : Writes log (k a) (fun b new => K b (n :: new)) (fun e new => E e (n :: new))) :
    Writes log (m >>= k) K E := by
  intro s
  obtain ⟨t, hrun, hlog⟩ := hm s
  rw [bind_of_ok hrun]
  obtain ⟨new, hnew, hok, herror⟩ := hk t
  exact ⟨n :: new, by rw [hnew, hlog, List.append_assoc]; rfl, hok, herror⟩

/-- **The rule of an exception handler**: its entries come after those of the
method that raised. -/
theorem writes_catchIf {handles : ε → Bool} {k : ε → Method ε σ α} (hm : Writes log m Q E)
    (hcaught : ∀ e old, E e old → handles e = true →
      Writes log (k e) (fun a new => Q a (old ++ new)) (fun e' new => E' e' (old ++ new)))
    (huncaught : ∀ e old, E e old → handles e = false → E' e old) :
    Writes log (m.catchIf handles k) Q E' := by
  intro s
  obtain ⟨old, hold, hok, herror⟩ := hm s
  rcases hrun : m s with ⟨e | a, t⟩
  · rw [hrun] at hold herror
    have hcatch : m.catchIf handles k s = if handles e then k e t else (.error e, t) := by
      unfold catchIf
      rw [hrun]
    rw [hcatch]
    cases hhandles : handles e with
    | true =>
      obtain ⟨new, hnew, hok', herror'⟩ := hcaught e old (herror e rfl) hhandles t
      refine ⟨old ++ new, ?_, hok', herror'⟩
      rw [if_pos rfl, hnew, hold, List.append_assoc]
    | false =>
      refine ⟨old, hold, nofun, ?_⟩
      rintro _ ⟨⟩
      exact huncaught e old (herror e rfl) hhandles
  · rw [hrun] at hold hok
    have hcatch : m.catchIf handles k s = (.ok a, t) := by
      unfold catchIf
      rw [hrun]
    rw [hcatch]
    refine ⟨old, hold, ?_, nofun⟩
    rintro _ ⟨⟩
    exact hok a rfl

/-- **The rule of a loop**: its entries are those of its turns, each with what
the turn returned. -/
theorem writes_mapEach {xs : List α} {body : α → Method ε σ β}
    (h : ∀ x ∈ xs, Writes log (body x) K fun _ _ => True) :
    Writes log (mapEach xs body)
      (fun ys new => ∃ turns, new = turns.flatten ∧ List.Forall₂ K ys turns) fun _ _ => True := by
  induction xs with
  | nil => exact writes_pure ⟨[], rfl, .nil⟩
  | cons x xs ih =>
    refine writes_bind (h x List.mem_cons_self) (fun y first hfirst => ?_)
    refine writes_bind (ih (fun z hz => h z (List.mem_cons_of_mem x hz))) ?_
    rintro ys _ ⟨turns, rfl, hturns⟩
    refine writes_pure ⟨first :: turns, ?_, .cons hfirst hturns⟩
    rw [List.append_nil, List.flatten_cons]

/-- The rule of a loop that says what the turn of each element is. -/
theorem writes_mapEach_turns {xs : List α} {body : α → Method ε σ β} {K : α → β → List ν → Prop}
    (h : ∀ x ∈ xs, Writes log (body x) (K x) fun _ _ => True) :
    Writes log (mapEach xs body)
      (fun ys new => ∃ turns : List (β × List ν), ys = turns.map Prod.fst
        ∧ new = turns.flatMap Prod.snd ∧ List.Forall₂ (fun x turn => K x turn.1 turn.2) xs turns)
      fun _ _ => True := by
  induction xs with
  | nil => exact writes_pure ⟨[], rfl, rfl, .nil⟩
  | cons x xs ih =>
    refine writes_bind (h x List.mem_cons_self) (fun y first hfirst => ?_)
    refine writes_bind (ih (fun z hz => h z (List.mem_cons_of_mem x hz))) ?_
    rintro _ _ ⟨turns, rfl, rfl, hturns⟩
    refine writes_pure ⟨(y, first) :: turns, rfl, ?_, .cons hfirst hturns⟩
    rw [List.append_nil, List.flatMap_cons]

end Method
