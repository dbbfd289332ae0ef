import Sastt.Application.WatchedRuns

/-!
# Cancelling a run

A run is to be stopped once its caller has cancelled, or once the time it was
given has passed since it began (`Stopped`). What stops it is that every adapter
begins by checking the context it is handed: a cancelled context makes the call
raise, and no handler of the pipeline catches that.

The check looks at the token only. A deadline is never looked at, and a child of
a context would not know it, because its clock starts when it is made. And the
mixture of a region is recognised in a context with a token of its own, which
nobody cancels. So a run is stopped exactly when all it does after it is to be
stopped is done in the caller's token, and that is cancelled
(`WatchedPipeline.stopsRun_iff`).
-/

namespace Sastt

open Method WatchedRun

variable {R V S : Type} [Field R] [LinearOrder R] [IsStrictOrderedRing R]

namespace WatchedPipeline

variable (t : WatchedPipeline R)

/-- **The run is to be stopped** by its call number `n`. -/
def Stopped (n : ℕ) : Prop :=
  t.around.cancelled n = true ∨ t.ctx.deadlineExceeded (t.around.now n) = true

/-- **Cancellation and the deadline stop a run**: no call from then on gets past
its check, and a run that makes one ends with an error. -/
def StopsRun (r : Except PyError (OfflineResult R) × WatchedRun R V) : Prop :=
  ∀ m n call, m ≤ n → t.Stopped m → r.2.calls[n]? = some call →
    call.passed = false ∧ r.1.isOk = false

/-- What is to be stopped stays so. -/
theorem Stopped.mono {t : WatchedPipeline R} {m n : ℕ} (h : t.Stopped m) (hmn : m ≤ n) :
    t.Stopped n := by
  refine h.imp (t.around.cancelled_mono m n hmn) (fun hm => ?_)
  have hnow : t.around.now m ≤ t.around.now n := t.around.now_mono hmn
  simp only [CallContext.deadlineExceeded, decide_eq_true_eq] at hm ⊢
  linarith

/-! ## Who gets past the check -/

/-- Every call got past its check unless its token was cancelled. -/
def Checked (around : Surroundings) (u : WatchedRun R V) : Prop :=
  ∀ n call, u.calls[n]? = some call →
    call.passed = !around.isCancelled n call.ctx.cancellation

/-- A call has been turned away. -/
def TurnedAway (u : WatchedRun R V) : Prop := ∃ call ∈ u.calls, call.passed = false

/-- The check, as a condition. -/
theorem isOk_check (ctx : CallContext) (isCancelled : CancellationToken → Bool) :
    (ctx.check isCancelled).isOk = !isCancelled ctx.cancellation := by
  unfold CallContext.check
  cases isCancelled ctx.cancellation with
  | true => rfl
  | false => rfl

/-- What a call leaves behind. -/
theorem call_snd {α : Type} (ctx : CallContext) (port : Port) (reply : Except PyError α)
    (u : WatchedRun R V) :
    (t.call ctx port reply u).2 = { u with calls := u.calls
      ++ [⟨port, ctx, !t.around.isCancelled u.calls.length ctx.cancellation⟩] } := by
  rw [← isOk_check]
  rfl

/-- The primitives keep the calls checked. -/
theorem Primitive.checked {around : Surroundings} {noting : Prop} {α : Type}
    {m : Method PyError (WatchedRun R V) α} (hm : Primitive around noting α m) {u : WatchedRun R V}
    (hu : Checked around u) : Checked around (m u).2 := by
  cases hm with
  | onSession m => exact hu
  | note _ n => exact hu
  | call t ht ctx port reply =>
    subst ht
    rw [call_snd]
    intro n call hcall
    rcases Nat.lt_or_ge n u.calls.length with hn | hn
    · rw [List.getElem?_append_left hn] at hcall
      exact hu n call hcall
    · rw [List.getElem?_append_right hn, List.getElem?_singleton] at hcall
      split at hcall
      · next hzero =>
        rw [show n = u.calls.length by omega]
        cases hcall
        rfl
      · cases hcall

/-- A primitive that is turned away raises. -/
theorem Primitive.error_of_turnedAway {around : Surroundings} {noting : Prop} {α : Type}
    {m : Method PyError (WatchedRun R V) α} (hm : Primitive around noting α m) {u : WatchedRun R V}
    (hu : ¬ TurnedAway u) (hv : TurnedAway (m u).2) :
    (m u).1 = .error CallContext.cancelledError := by
  cases hm with
  | onSession m => exact absurd hv hu
  | note _ n => exact absurd hv hu
  | call t ht ctx port reply =>
    rw [call_snd] at hv
    obtain ⟨call, hcall, hpassed⟩ := hv
    rcases List.mem_append.mp hcall with hcall | hcall
    · exact absurd ⟨call, hcall, hpassed⟩ hu
    · rw [List.mem_singleton.mp hcall, Bool.not_eq_false'] at hpassed
      show (ctx.check (t.around.isCancelled u.calls.length) >>= fun _ => reply) = _
      rw [CallContext.check, if_pos hpassed]
      rfl

/-- No handler catches a cancellation. -/
theorem Handler.cancelledError {handles : PyError → Bool} (h : Handler handles) :
    handles CallContext.cancelledError = false := by
  cases h with
  | insufficientSpeech => rfl
  | separationFailed => rfl

/-! ## Whole runs -/

variable [AddCommGroup V] [Module R V] [EmbeddingSpace R V]

/-- In a run, whoever is turned away was cancelled. -/
theorem checked_run (c : RunContext R) (models : OfflineModels R V S) (ulids : ℕ → String)
    (pinned : Option String) : Checked t.around (t.run c models ulids pinned).2 := by
  let Keeps (u v : WatchedRun R V) : Prop := Checked t.around u → Checked t.around v
  have : Std.Refl Keeps := ⟨fun _ h => h⟩
  have : IsTrans (WatchedRun R V) Keeps := ⟨fun _ _ _ huv hvw h => hvw (huv h)⟩
  have hrun : Within Keeps (t.runOn c models ulids pinned) :=
    (made_runOn rfl c models ulids pinned).within (fun _ _ hm _ hu => hm.checked hu)
  exact hrun _ (fun n call hcall => by cases hcall)

/-- A run in which a call is turned away ends with that error. -/
theorem run_of_turnedAway (c : RunContext R) (models : OfflineModels R V S) (ulids : ℕ → String)
    (pinned : Option String) (h : TurnedAway (t.run c models ulids pinned).2) :
    (t.run c models ulids pinned).1 = .error CallContext.cancelledError := by
  refine (made_runOn rfl c models ulids pinned).error_of_halted
    (fun _ hhandler => hhandler.cancelledError) (fun _ _ hm _ hu hv => hm.error_of_turnedAway hu hv)
    ?_ h
  rintro ⟨call, hcall, -⟩
  exact List.not_mem_nil hcall

/-- **Exactly when a run is stopped.** Every call it makes after it is to be
stopped is made when the caller has cancelled, and in a context with the caller's
token. A deadline that passes and no cancellation stops nothing, and neither of
them stops the recognition of a mixture. -/
theorem stopsRun_iff (c : RunContext R) (models : OfflineModels R V S) (ulids : ℕ → String)
    (pinned : Option String) :
    t.StopsRun (t.run c models ulids pinned) ↔
      ∀ n call, (t.run c models ulids pinned).2.calls[n]? = some call → t.Stopped n →
        t.around.cancelled n = true ∧ call.ctx.cancellation = .caller := by
  have hchecked := t.checked_run c models ulids pinned
  constructor
  · intro hstops n call hcall hstopped
    have hpassed := (hstops n n call le_rfl hstopped hcall).1
    rw [hchecked n call hcall, Bool.not_eq_false'] at hpassed
    cases htoken : call.ctx.cancellation with
    | caller =>
      rw [htoken] at hpassed
      exact ⟨hpassed, rfl⟩
    | own =>
      rw [htoken] at hpassed
      cases hpassed
  · intro hcalls m n call hmn hstopped hcall
    obtain ⟨hcancelled, htoken⟩ := hcalls n call hcall (hstopped.mono hmn)
    have hpassed : call.passed = false := by
      rw [hchecked n call hcall, htoken]
      simpa [Surroundings.isCancelled] using hcancelled
    refine ⟨hpassed, ?_⟩
    rw [t.run_of_turnedAway c models ulids pinned
      ⟨call, List.mem_of_getElem? hcall, hpassed⟩]
    rfl

/-! ## Runs that go on -/

section Example

/-- Two people talk at once, and nothing can separate them. -/
def inseparable : OfflineModels ℚ ℚ Unit where
  decoded := .ok {
    durationMs := 2000
    mono := fortySamples }
  adapters := {
    vad := fun _ buffer => .ok [buffer.interval]
    transcribe := fun _ _ _ _ => .ok (.english [.heard "yes" 100 900 none])
    embed := fun _ _ _ _ _ _ => noVoice }
  diarizer _ := .ok (.found [] [firstMs 2000])
  overlapDetector _ := .ok []
  detectLanguage _ := .ok ("en", 1)

/-- A job that is given sixty seconds, and what happens around it. -/
def sixtySeconds (around : Surroundings) : WatchedPipeline ℚ where
  config := {}
  linearSumAssignment := fun h _ => Fin.castLE h
  around := around
  stage := "offline_job"
  timeoutSeconds := 60
  startedMonotonic := 0

/-- The caller cancels while the speech of the recording is looked for, -/
def cancelledSoon : WatchedPipeline ℚ := sixtySeconds {
  now := fun _ => 0
  cancelled := fun n => 4 ≤ n
  now_mono := monotone_zero
  cancelled_mono := fun m n hmn hm => by simpa using le_trans (by simpa using hm) hmn }

/-- or does not, but every call comes more than a minute after the start. -/
def overdue : WatchedPipeline ℚ := sixtySeconds {
  now := fun _ => 61
  cancelled := fun _ => false
  now_mono := monotone_const
  cancelled_mono := fun _ _ _ hm => hm }

/-- The caller has cancelled before it begins. -/
def cancelledAtOnce : WatchedPipeline ℚ := sixtySeconds {
  now := fun _ => 0
  cancelled := fun _ => true
  now_mono := monotone_zero
  cancelled_mono := fun _ _ _ hm => hm }

/-- What this recording comes to. -/
def outcome (t : WatchedPipeline ℚ) : Except PyError (OfflineResult ℚ) × WatchedRun ℚ ℚ :=
  t.run
    { sessionId := "session", modelVersions := {}, configVersion := "1",
      embeddingModelVersion := "campplus", calibrator := NullConfidenceCalibrator ℚ }
    inseparable toString none

/-- A run that is cancelled before it begins is stopped: it makes no call but of
the decoder. -/
theorem cancelledAtOnce_stopsRun : cancelledAtOnce.StopsRun (outcome cancelledAtOnce) := by
  have hcaller : ((outcome cancelledAtOnce).2.calls.all
      fun call => call.ctx.cancellation = .caller) = true := by decide +kernel
  refine (cancelledAtOnce.stopsRun_iff _ _ _ _).mpr (fun n call hcall _ => ⟨rfl, ?_⟩)
  have hone := List.all_eq_true.mp hcaller call (List.mem_of_getElem? hcall)
  exact of_decide_eq_true hone

/-- **Neither stops the run.** The cancelled one recognises the mixture all the
same, the overdue one does everything, and both return. -/
theorem cancelled_and_overdue_go_on :
    ((outcome cancelledSoon).1.isOk = true ∧ ¬ cancelledSoon.StopsRun (outcome cancelledSoon))
      ∧ ((outcome overdue).1.isOk = true ∧ ¬ overdue.StopsRun (outcome overdue)) := by
  have hcancelled : (outcome cancelledSoon).1.isOk = true := by decide +kernel
  have hoverdue : (outcome overdue).1.isOk = true := by decide +kernel
  have hmixture : ((outcome cancelledSoon).2.calls[4]?).isSome = true := by decide +kernel
  have hdecoder : ((outcome overdue).2.calls[0]?).isSome = true := by decide +kernel
  refine ⟨⟨hcancelled, fun hstops => ?_⟩, ⟨hoverdue, fun hstops => ?_⟩⟩
  · obtain ⟨call, hcall⟩ := Option.isSome_iff_exists.mp hmixture
    have herror := (hstops 4 4 call le_rfl (.inl (by decide)) hcall).2
    rw [hcancelled] at herror
    cases herror
  · obtain ⟨call, hcall⟩ := Option.isSome_iff_exists.mp hdecoder
    have herror := (hstops 0 0 call le_rfl (.inr (by decide +kernel)) hcall).2
    rw [hoverdue] at herror
    cases herror

end Example

end WatchedPipeline

end Sastt
