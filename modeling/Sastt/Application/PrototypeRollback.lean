import Sastt.Application.SeparatedEvidence
import Sastt.Application.WriteFrames
import Sastt.Lib.Undo

/-!
# Updates that are taken back

A speaker's prototype and its history are a value that can be undone: an accepted update sets
it, and `rollback_prototype` undoes what was set last (`evidence_step`, `evidence_rollback`).
This holds at every state that calls and rollbacks in any order lead to, since whatever is in a
history was a prototype of the speaker, and could be again (`Restorable`).

So `n` rollbacks take `n` accepted updates back exactly, if there was a prototype before them.
The update that creates the first one is not taken back: there is nothing in the history to go
back to (`updates_undone_iff`).
-/

namespace Sastt

open Method

variable {R V : Type} [Field R] [LinearOrder R] [IsStrictOrderedRing R] [AddCommGroup V]
  [Module R V] [EmbeddingSpace R V]

namespace SessionSpeaker

/-- The prototype of a speaker, with those it had before. -/
def evidence (s : SessionSpeaker R V) : Undoable (SpeakerPrototype R V) :=
  ⟨s.prototype, s.prototypeHistory⟩

omit [Field R] [LinearOrder R] [IsStrictOrderedRing R] [AddCommGroup V] [Module R V]
  [EmbeddingSpace R V]

theorem evidence_rollbackPrototype (s : SessionSpeaker R V) :
    s.rollbackPrototype.evidence = s.evidence.undo := by
  unfold rollbackPrototype Undoable.undo evidence
  dsimp only
  cases s.prototypeHistory.getLast? <;> rfl

/-- A rollback is an assignment to the prototype and the history only. -/
theorem rollbackPrototype_eq (s : SessionSpeaker R V) : s.rollbackPrototype = { s with
    prototype := s.evidence.undo.current
    prototypeHistory := s.evidence.undo.history } := by
  unfold rollbackPrototype Undoable.undo evidence
  dsimp only
  cases s.prototypeHistory.getLast? <;> rfl

end SessionSpeaker

/-- A call, or a rollback of the prototype of the speaker registered under an id. -/
inductive Edit (R V : Type) [Field R] [LinearOrder R] [IsStrictOrderedRing R] [AddCommGroup V]
    [Module R V] [EmbeddingSpace R V] where
  | call (op : Op R V)
  | rollback (id : String)

namespace SessionSpeakerState

/-- `rollback_prototype` of a registered speaker. -/
def rollback (id : String) (st : SessionSpeakerState R V) : SessionSpeakerState R V :=
  st.assign id SessionSpeaker.rollbackPrototype

/-- The state after a call or a rollback. -/
def edit (st : SessionSpeakerState R V) : Edit R V → SessionSpeakerState R V
  | .call op => st.step op
  | .rollback id => st.rollback id

/-- The prototype of a speaker, with those it had before. -/
def evidence (st : SessionSpeakerState R V) (id : String) :
    Option (Undoable (SpeakerPrototype R V)) := (st.speakers id).map SessionSpeaker.evidence

/-- The call updates the prototype of a speaker, and is accepted. -/
def Accepts (st : SessionSpeakerState R V) (id : String) : Op R V → Prop
  | .updatePrototype a e margin passed => (∃ s, st.get a = .ok s ∧ s.sessionSpeakerId = id)
      ∧ takenIn (updatePrototype a e margin passed st).1 = true
  | .bufferProvisionalEmbedding a e => (∃ s, st.get a = .ok s ∧ s.sessionSpeakerId = id)
      ∧ takenIn (bufferProvisionalEmbedding a e st).1 = true
  | _ => False

/-- **Updates that are accepted one after the other.** -/
def AcceptsAll (st : SessionSpeakerState R V) (id : String) (updates : List (Op R V)) : Prop :=
  EachStep step (fun st op => st.Accepts id op) st updates

/-- **As many rollbacks take the updates back**: the speaker has the prototype that it had, or
none, and the history. -/
def Undoes (st : SessionSpeakerState R V) (id : String) (updates : List (Op R V)) : Prop :=
  ((rollback id)^[updates.length] (st.run updates)).evidence id = st.evidence id

variable {st st' : SessionSpeakerState R V} {id : String} {s : SessionSpeaker R V}
  {e : SpeakerEmbedding R V}

/-! ## What histories are made of -/

/-- A prototype that a speaker could have. -/
def Fits (st : SessionSpeakerState R V) (id : String) (p : SpeakerPrototype R V) : Prop :=
  0 < p.weightSum ∧ p.modelVersion = st.embeddingModelVersion
    ∧ st.rootOf p.speakerKey = st.rootOf id

/-- **A state that may be rolled back**: what speakers have in their histories they could
have again. -/
structure Restorable (st : SessionSpeakerState R V) : Prop where
  wellFormed : st.WellFormed
  history : ∀ id s, st.speakers id = some s → ∀ p ∈ s.prototypeHistory, st.Fits id p

/-- Whatever is in a history was in it, or was the prototype. -/
def Inherits (st st' : SessionSpeakerState R V) : Prop :=
  ∀ id s', st'.speakers id = some s' → ∀ p ∈ s'.prototypeHistory,
    ∃ s, st.speakers id = some s ∧ (p ∈ s.prototypeHistory ∨ s.prototype = some p)

/-- A speaker has the evidence that it had, or is new and has none. -/
def Unlearned (st st' : SessionSpeakerState R V) : Prop :=
  ∀ id s', st'.speakers id = some s' → (∃ s, st.speakers id = some s ∧ s'.evidence = s.evidence)
    ∨ s'.evidence = ⟨none, []⟩

section

omit [AddCommGroup V] [Module R V] [EmbeddingSpace R V]

theorem Unlearned.inherits (h : Unlearned st st') : Inherits st st' := by
  intro id s' hs' p hp
  rcases h id s' hs' with ⟨s, hs, heq⟩ | hnone
  · have hhistory : s'.prototypeHistory = s.prototypeHistory := congrArg Undoable.history heq
    exact ⟨s, hs, Or.inl (hhistory ▸ hp)⟩
  · rw [show s'.prototypeHistory = [] from congrArg Undoable.history hnone] at hp
    cases hp

instance : Std.Refl (Unlearned (R := R) (V := V)) where
  refl _ _ s hs := Or.inl ⟨s, hs, rfl⟩

instance : IsTrans (SessionSpeakerState R V) Unlearned where
  trans _ _ _ h h' id s'' hs'' := by
    rcases h' id s'' hs'' with ⟨s', hs', heq⟩ | hnone
    · rw [heq]
      exact h id s' hs'
    · exact Or.inr hnone

theorem writeFrame_unlearned : WriteFrame (Unlearned (R := R) (V := V)) where
  books st st' hs _ id s h := Or.inl ⟨s, hs ▸ h, rfl⟩
  aside k f hf st id s' hs' := by
    replace hs' : (st.assign k f).speakers id = some s' := hs'
    rw [speakers_assign] at hs'
    obtain ⟨s, hs, rfl⟩ := Option.map_eq_some_iff.mp hs'
    refine Or.inl ⟨s, hs, ?_⟩
    split
    · exact Undoable.ext (hf.prototype s) (hf.history s)
    · rfl
  register s hp hh _ := within_register_of (fun st hfresh id t ht => by
    cases hs : st.speakers id with
    | none =>
      obtain rfl := eq_of_insertSpeaker hs ht
      exact Or.inr (Undoable.ext hp hh)
    | some t' =>
      obtain rfl := Option.some.inj (ht.symm.trans (speakers_insertSpeaker hfresh hs))
      exact Or.inl ⟨t, rfl, rfl⟩)

end

/-! ## An accepted update -/

/-- **What learning a speaker does**: one record is written to, whose prototype is set if the
embedding is accepted, and whose history is extended by the prototype at most. -/
theorem setPrototype_effect (hs : st.speakers id = some s) :
    ∃ s', (setPrototype id e st).2.speakers = Function.update st.speakers id (some s')
      ∧ (takenIn (setPrototype id e st).1 = true → ∃ p, s'.evidence = s.evidence.set p)
      ∧ ∀ p ∈ s'.prototypeHistory, p ∈ s.prototypeHistory ∨ s.prototype = some p := by
  have hsame : st.speakers = Function.update st.speakers id (some s) := by
    rw [← hs, Function.update_eq_self]
  unfold setPrototype
  rw [read_bind, hs]
  dsimp only
  cases hp : s.prototype with
  | none =>
    dsimp only
    cases hnew : SpeakerPrototype.fromEmbedding id e with
    | error err => exact ⟨s, hsame, nofun, fun p hmem => Or.inl hmem⟩
    | ok p =>
      refine ⟨{ s with prototype := some p }, ?_, fun _ => ⟨p, ?_⟩, fun q hmem => Or.inl hmem⟩
      · show Function.update st.speakers id ((st.speakers id).map _) = _
        rw [hs]
        rfl
      · refine Undoable.ext rfl ?_
        show s.prototypeHistory = s.prototypeHistory ++ s.prototype.toList
        rw [hp, Option.toList_none, List.append_nil]
  | some current =>
    dsimp only
    have hmem : ∀ p ∈ s.prototypeHistory ++ [current],
        p ∈ s.prototypeHistory ∨ some current = some p := fun p hmem =>
      (List.mem_append.mp hmem).imp_right
        (fun hcurrent => congrArg some (List.mem_singleton.mp hcurrent).symm)
    cases hnew : current.updatedWith e with
    | error err =>
      refine ⟨{ s with prototypeHistory := s.prototypeHistory ++ [current] }, ?_, nofun, hmem⟩
      show Function.update st.speakers id ((st.speakers id).map _) = _
      rw [hs]
      rfl
    | ok p =>
      refine ⟨{ s with
        prototype := some p
        prototypeHistory := s.prototypeHistory ++ [current] }, ?_, fun _ => ⟨p, ?_⟩, hmem⟩
      · show Function.update (Function.update st.speakers id ((st.speakers id).map _)) id
          ((Function.update st.speakers id ((st.speakers id).map _) id).map _) = _
        rw [Function.update_idem, Function.update_self, hs]
        rfl
      · refine Undoable.ext rfl ?_
        show s.prototypeHistory ++ [current] = s.prototypeHistory ++ s.prototype.toList
        rw [hp]
        rfl

variable {gate : SessionSpeakerState R V → SessionSpeaker R V → Option String} {a : String}

theorem WellFormed.inherits_gatedUpdate (h : st.WellFormed) (a : String)
    (e : SpeakerEmbedding R V) : Inherits st (gatedUpdate gate a e st).2 := by
  have hsame : Inherits st st := (Std.Refl.refl (r := Unlearned) st).inherits
  unfold gatedUpdate
  rw [read_bind]
  cases hget : st.get a with
  | error err => exact hsame
  | ok s =>
    rw [ofExcept_ok_bind]
    cases gate st s with
    | some reason => exact hsame
    | none =>
      obtain ⟨-, hs, -⟩ := h.get_eq_ok hget
      obtain ⟨s', hspeakers, -, hhistory⟩ := setPrototype_effect (e := e) (h.keyed hs)
      intro k t ht p hp
      dsimp only at ht
      rw [hspeakers, Function.update_apply] at ht
      split at ht
      · next hk =>
        cases ht
        exact ⟨s, hk ▸ h.keyed hs, hhistory p hp⟩
      · exact ⟨t, ht, Or.inl hp⟩

/-- **An accepted update sets the prototype.** -/
theorem WellFormed.evidence_gatedUpdate (h : st.WellFormed)
    (hstands : ∃ s, st.get a = .ok s ∧ s.sessionSpeakerId = id)
    (hok : takenIn (gatedUpdate gate a e st).1 = true) :
    ∃ p, (gatedUpdate gate a e st).2.evidence id = (st.evidence id).map (fun u => u.set p) := by
  obtain ⟨s, hget, rfl⟩ := hstands
  obtain ⟨-, hs, -⟩ := h.get_eq_ok hget
  unfold gatedUpdate at hok ⊢
  rw [read_bind, hget, ofExcept_ok_bind] at hok ⊢
  cases hg : gate st s with
  | some reason =>
    rw [hg] at hok
    cases hok
  | none =>
    rw [hg] at hok
    obtain ⟨s', hspeakers, hset, -⟩ := setPrototype_effect (e := e) (h.keyed hs)
    obtain ⟨p, hp⟩ := hset hok
    refine ⟨p, ?_⟩
    unfold evidence
    dsimp only
    rw [hspeakers, Function.update_self, h.keyed hs]
    exact congrArg some hp

theorem WellFormed.evidence_step (h : st.WellFormed) {op : Op R V} (hop : st.Accepts id op) :
    ∃ p, (st.step op).evidence id = (st.evidence id).map (fun u => u.set p) := by
  cases op with
  | updatePrototype a e margin passed => exact h.evidence_gatedUpdate hop.1 hop.2
  | bufferProvisionalEmbedding a e => exact h.evidence_gatedUpdate hop.1 hop.2
  | _ => exact nomatch hop

/-- **Accepted updates set the prototype again and again.** -/
theorem WellFormed.evidence_run (h : st.WellFormed) {updates : List (Op R V)}
    (hall : st.AcceptsAll id updates) : ∃ ps : List (SpeakerPrototype R V),
      ps.length = updates.length
        ∧ (st.run updates).evidence id
          = (st.evidence id).map (fun u => ps.foldl Undoable.set u) := by
  induction updates generalizing st with
  | nil => exact ⟨[], rfl, by simp⟩
  | cons op updates ih =>
    obtain ⟨hfirst, hrest⟩ := eachStep_cons.mp hall
    obtain ⟨p, hp⟩ := h.evidence_step hfirst
    obtain ⟨ps, hlength, hps⟩ := ih (step_cases h op).1 hrest
    refine ⟨p :: ps, by simp [hlength], ?_⟩
    show ((st.step op).run updates).evidence id = _
    rw [hps, hp, Option.map_map]
    rfl

/-! ## A rollback -/

section

omit [AddCommGroup V] [Module R V] [EmbeddingSpace R V]

theorem evidence_rollback (id : String) (st : SessionSpeakerState R V) :
    (st.rollback id).evidence id = (st.evidence id).map Undoable.undo := by
  unfold evidence rollback
  rw [speakers_assign, Option.map_map, Option.map_map]
  refine congrArg (fun f => (st.speakers id).map f) (funext fun s => ?_)
  simp [SessionSpeaker.evidence_rollbackPrototype]

theorem evidence_rollback_iterate (id : String) (n : ℕ) (st : SessionSpeakerState R V) :
    ((rollback id)^[n] st).evidence id = (st.evidence id).map Undoable.undo^[n] := by
  induction n with
  | zero => simp
  | succ n ih =>
    rw [Function.iterate_succ_apply', evidence_rollback, ih, Option.map_map,
      Function.iterate_succ']

/-- Histories of what was there before stay fitting. -/
theorem Restorable.of_inherits (h : st.Restorable) (hwf : st'.WellFormed)
    (hversion : st'.embeddingModelVersion = st.embeddingModelVersion)
    (hroots : ∀ a b, st.rootOf a = st.rootOf b → st'.rootOf a = st'.rootOf b)
    (hinherits : Inherits st st') : st'.Restorable := by
  refine ⟨hwf, fun id s' hs' p hp => ?_⟩
  have hfits : st.Fits id p := by
    obtain ⟨s, hs, hp | hp⟩ := hinherits id s' hs' p hp
    · exact h.history id s hs p hp
    · exact h.wellFormed.prototype_ok hs hp
  exact ⟨hfits.1, hfits.2.1.trans hversion.symm, hroots _ _ hfits.2.2⟩

/-- **What is in a history could be the prototype**, so a rollback leaves a state that may be
rolled back. -/
theorem Restorable.rollback (h : st.Restorable) (id : String) : (st.rollback id).Restorable := by
  show (st.assign id SessionSpeaker.rollbackPrototype).Restorable
  obtain ⟨hwf, hquiet⟩ : (st.assign id SessionSpeaker.rollbackPrototype).WellFormed
      ∧ Quiet st (st.assign id SessionSpeaker.rollbackPrototype) := h.wellFormed.assign
    (fun s => by rw [s.rollbackPrototype_eq]) (fun s => by rw [s.rollbackPrototype_eq])
    (fun s => by rw [s.rollbackPrototype_eq]) (fun s hs p hp => by
      rw [s.rollbackPrototype_eq] at hp
      rcases Undoable.current_undo hp with hold | hcurrent
      · exact h.history id s hs p hold
      · exact h.wellFormed.prototype_ok hs hcurrent)
  refine h.of_inherits hwf hquiet.version
    (fun a b hab => by rwa [hquiet.rootOf h.wellFormed hwf]) (fun k s' hs' p hp => ?_)
  rw [speakers_assign] at hs'
  obtain ⟨s, hs, rfl⟩ := Option.map_eq_some_iff.mp hs'
  refine ⟨s, hs, Or.inl ?_⟩
  split at hp
  · rw [s.rollbackPrototype_eq] at hp
    exact s.evidence.history_undo_subset hp
  · exact hp

end

/-- Ids that stand for one speaker go on doing so. -/
theorem WellFormed.rootOf_step (h : st.WellFormed) (op : Op R V) {a b : String}
    (hab : st.rootOf a = st.rootOf b) : (st.step op).rootOf a = (st.step op).rootOf b := by
  obtain ⟨h', -, heffect⟩ := step_cases h op
  cases heffect with
  | quiet op hq => rwa [hq.rootOf h h']
  | marked x y hd hp => rwa [rootOf_congr h.ends h'.ends hp]
  | merged x y reason hs hp =>
    obtain ⟨A, B, hx, hy, hallow⟩ := hs
    have hne : st.rootOf x ≠ st.rootOf y := by
      rw [← (h.get_eq_ok hx).2.2.1, ← (h.get_eq_ok hy).2.2.1]
      exact hallow.1
    rw [rootOf_of_linked h.ends h'.ends (h.parentOf_rootOf x) (h.parentOf_rootOf y) hne hp,
      rootOf_of_linked h.ends h'.ends (h.parentOf_rootOf x) (h.parentOf_rootOf y) hne hp, hab]

/-- No call puts anything into a history but the prototype. -/
theorem WellFormed.inherits_step (h : st.WellFormed) (op : Op R V) : Inherits st (st.step op) := by
  have hsame : Inherits st st := (Std.Refl.refl (r := Unlearned) st).inherits
  cases op with
  | merge x y reason =>
    by_cases hs : st.MergeSucceeds x y
    · obtain ⟨A, B, hx, hy, hallow⟩ := hs
      intro k s' hs' p hp
      rw [speakers_step_merge h hx hy hallow] at hs'
      obtain ⟨s, hs, rfl⟩ := Option.map_eq_some_iff.mp hs'
      refine ⟨s, hs, Or.inl ?_⟩
      unfold mergedRecord at hp
      split_ifs at hp <;> exact hp
    · rw [step_merge_same h hs]
      exact hsame
  | updatePrototype a e margin passed => exact h.inherits_gatedUpdate a e
  | bufferProvisionalEmbedding a e => exact h.inherits_gatedUpdate a e
  | _ => exact Unlearned.inherits (writeFrame_unlearned.step st _ nofun rfl)

theorem Restorable.edit (h : st.Restorable) (edit : Edit R V) : (st.edit edit).Restorable := by
  cases edit with
  | call op =>
    obtain ⟨hwf, hext, -⟩ := step_cases h.wellFormed op
    exact h.of_inherits hwf hext.version (fun _ _ hab => h.wellFormed.rootOf_step op hab)
      (h.wellFormed.inherits_step op)
  | rollback id => exact h.rollback id

/-- **Whatever calls and rollbacks lead to may be rolled back.** -/
theorem restorable_foldl (sessionId : String) (config : SasttConfig R) (version : String)
    (edits : List (Edit R V)) :
    (edits.foldl edit (new sessionId config version)).Restorable :=
  invariant_foldl ⟨wellFormed_new sessionId config version, fun _ _ hs => nomatch hs⟩
    (fun _ e h => h.edit e)

/-! ## Updates and as many rollbacks -/

theorem WellFormed.undoes_of_some (h : st.WellFormed) {u : Undoable (SpeakerPrototype R V)}
    (hu : st.evidence id = some u) (hsome : u.current.isSome = true) {updates : List (Op R V)}
    (hall : st.AcceptsAll id updates) : st.Undoes id updates := by
  obtain ⟨ps, hlength, hps⟩ := h.evidence_run hall
  unfold Undoes
  rw [evidence_rollback_iterate, hps, hu, Option.map_some, Option.map_some, ← hlength,
    Undoable.undo_iterate_foldl_set hsome]

/-- **Updates are taken back exactly if there was a prototype before them**: for every speaker of
every state that calls and rollbacks lead to and every sequence of accepted updates, as many
rollbacks restore the prototype and the history, and after any number of rollbacks further
updates are taken back in the same way. -/
theorem updates_undone_iff (sessionId : String) (config : SasttConfig R) (version : String)
    (edits : List (Edit R V)) (hst : st = edits.foldl edit (new sessionId config version))
    (hs : s ∈ st.active) {updates : List (Op R V)} (hne : updates ≠ [])
    (hall : st.AcceptsAll s.sessionSpeakerId updates) :
    (st.Undoes s.sessionSpeakerId updates
      ∧ ∀ n more, ((rollback s.sessionSpeakerId)^[n] (st.run updates)).AcceptsAll
          s.sessionSpeakerId more →
        ((rollback s.sessionSpeakerId)^[n] (st.run updates)).Undoes s.sessionSpeakerId more)
    ↔ s.prototype ≠ none := by
  have h : st.Restorable := hst ▸ restorable_foldl sessionId config version edits
  have hevidence : st.evidence s.sessionSpeakerId = some s.evidence := by
    unfold evidence
    rw [(h.wellFormed.mem_active.mp hs).1]
    rfl
  obtain ⟨ps, hlength, hps⟩ := h.wellFormed.evidence_run hall
  rw [hevidence, Option.map_some] at hps
  have hps_ne : ps ≠ [] := by
    rintro rfl
    exact hne (List.length_eq_zero_iff.mp hlength.symm)
  have hundone : st.Undoes s.sessionSpeakerId updates ↔ s.prototype ≠ none := by
    unfold Undoes
    rw [evidence_rollback_iterate, hps, hevidence, Option.map_some, ← hlength,
      Option.some_inj, Undoable.undo_iterate_foldl_set_iff hps_ne, Option.isSome_iff_ne_none]
    rfl
  rw [hundone]
  refine and_iff_left (fun n more hmore => ?_)
  have hrun : (st.run updates).Restorable :=
    invariant_foldl h (fun _ op h => h.edit (.call op))
  have hback :
      ((SessionSpeakerState.rollback s.sessionSpeakerId)^[n] (st.run updates)).Restorable :=
    Function.Iterate.rec Restorable hrun (fun _ h => h.rollback s.sessionSpeakerId) n
  refine hback.wellFormed.undoes_of_some ?_
    (Undoable.isSome_current_undo_iterate
      (Undoable.isSome_current_foldl_set_of_ne_nil s.evidence hps_ne) n) hmore
  rw [evidence_rollback_iterate, hps]
  rfl

/-- A session with a speaker who has not been heard yet. -/
def unheard : SessionSpeakerState ℚ ℚ :=
  [.call (.createSessionSpeaker "a" none none)].foldl edit (new "session" {} "model")

/-- Two seconds of that speaker. -/
def firstUpdate : Op ℚ ℚ := .updatePrototype "sess_spk_a" (cleanVoice true) none true

theorem acceptsAll_firstUpdate : unheard.AcceptsAll "sess_spk_a" [firstUpdate] := by
  refine eachStep_cons.mpr ⟨⟨?_, by decide +kernel⟩, eachStep_nil⟩
  have hid : (unheard.get "sess_spk_a").map (fun s => s.sessionSpeakerId) = .ok "sess_spk_a" := by
    decide +kernel
  rcases hget : unheard.get "sess_spk_a" with err | s
  · rw [hget] at hid
    cases hid
  · rw [hget] at hid
    exact ⟨s, rfl, Except.ok.inj hid⟩

/-- The first update of a speaker. -/
theorem updates_undone_iff_of_unheard : ∃ s, s ∈ unheard.active
    ∧ ((unheard.Undoes s.sessionSpeakerId [firstUpdate]
      ∧ ∀ n more, ((rollback s.sessionSpeakerId)^[n] (unheard.run [firstUpdate])).AcceptsAll
          s.sessionSpeakerId more →
        ((rollback s.sessionSpeakerId)^[n] (unheard.run [firstUpdate])).Undoes
          s.sessionSpeakerId more)
      ↔ s.prototype ≠ none) := by
  have hactive : unheard.active.map (fun s => s.sessionSpeakerId) = ["sess_spk_a"] := by
    decide +kernel
  obtain ⟨s, hs, hid⟩ := List.mem_map.mp (hactive ▸ List.mem_singleton_self "sess_spk_a")
  refine ⟨s, hs, updates_undone_iff "session" {} "model"
    [.call (.createSessionSpeaker "a" none none)] rfl hs (List.cons_ne_nil _ _) ?_⟩
  rw [hid]
  exact acceptsAll_firstUpdate

/-- **The first prototype is not taken back**: the rollback finds an empty history, and does
nothing. -/
theorem first_update_stays : unheard.AcceptsAll "sess_spk_a" [firstUpdate]
    ∧ ¬ unheard.Undoes "sess_spk_a" [firstUpdate] := by
  refine ⟨acceptsAll_firstUpdate, fun hundone => ?_⟩
  have hsome := congrArg (Option.map (fun u => u.current.isSome)) hundone
  revert hsome
  decide +kernel

end SessionSpeakerState

end Sastt
