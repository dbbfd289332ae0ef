import Sastt.Application.LinkMargins
import Sastt.Application.SessionLifecycle
import Sastt.Application.TracedCalls
import Sastt.Lib.Triples

/-!
# One session, one language

Once a crop was recognised in a language, all later crops of the session are to
be recognised in it, and the language is not asked for again (`OneLanguage`). A
pipeline sees to this by pinning the language it is confident of: whatever it
calls afterwards reads what is pinned (`SpeaksIn`), so a run of the offline
pipeline has one language (`TracedPipeline.oneLanguage_run`).

A streaming session has two pipelines. The one of the final pass starts with the
language of the other; it may decide on one itself if there is none, from the
whole recording, and what it decides goes with it. That does no harm if the
session ends there. But when the final pass raises, the session may be closed a
second time, and all that is left of the decision then are the calls that were
made: the language is asked for again, and may come out as another one
(`TracedSession.decided_twice`).
-/

namespace Sastt

open Method Traced

/-! ## Calls in one language -/

/-- **One language**: a call that follows one that was made in a language is the
same call. -/
def OneLanguage (calls : List SpeechCall) : Prop :=
  calls.Pairwise (fun earlier later => earlier.language.isSome → later = earlier)

instance (calls : List SpeechCall) : Decidable (OneLanguage calls) :=
  inferInstanceAs (Decidable (calls.Pairwise _))

/-- **Calls that have come to a language**, or have come to none so far. -/
structure InLanguage (language : Option String) (calls : List SpeechCall) : Prop where
  one : OneLanguage calls
  eq : ∀ call ∈ calls, call.language.isSome → call.language = language

section Calls

variable {language : Option String} {calls new : List SpeechCall}

theorem inLanguage_nil : InLanguage language [] := ⟨.nil, nofun⟩

/-- No call was made in a language before one was decided on. -/
theorem InLanguage.undecided (h : InLanguage none calls) {call : SpeechCall}
    (hcall : call ∈ calls) : call.language = none := by
  by_contra hlanguage
  exact hlanguage (h.eq call hcall (Option.isSome_iff_ne_none.mpr hlanguage))

theorem inLanguage_of_undecided (h : ∀ call ∈ calls, call.language = none) :
    InLanguage language calls where
  one := List.pairwise_of_forall_mem_list (fun earlier hearlier later _ hlanguage => by
    rw [h earlier hearlier] at hlanguage
    cases hlanguage)
  eq call hcall hlanguage := by
    rw [h call hcall] at hlanguage
    cases hlanguage

/-- Any language may be decided on. -/
theorem InLanguage.decide (h : InLanguage none calls) : InLanguage language calls :=
  inLanguage_of_undecided (fun _ hcall => h.undecided hcall)

/-- The language may be asked for before one was decided on. -/
theorem InLanguage.detect (h : InLanguage none calls) :
    InLanguage none (calls ++ [.detectLanguage]) :=
  inLanguage_of_undecided (fun call hcall => by
    rcases List.mem_append.mp hcall with hcall | hcall
    · exact h.undecided hcall
    · rw [List.mem_singleton.mp hcall]
      rfl)

/-- **Crops may be recognised in the language of the calls.** -/
theorem InLanguage.append (h : InLanguage language calls)
    (hnew : ∀ call ∈ new, call = .transcribe language) : InLanguage language (calls ++ new) where
  one := by
    refine List.pairwise_append.mpr ⟨h.one, ?_, ?_⟩
    · exact List.pairwise_of_forall_mem_list (fun earlier hearlier later hlater _ =>
        (hnew later hlater).trans (hnew earlier hearlier).symm)
    · intro earlier hearlier later hlater hlanguage
      have heq := h.eq earlier hearlier hlanguage
      cases earlier with
      | transcribe spoken => exact (hnew later hlater).trans (congrArg _ heq.symm)
      | detectLanguage => cases hlanguage
  eq call hcall hlanguage := by
    rcases List.mem_append.mp hcall with hcall | hcall
    · exact h.eq call hcall hlanguage
    · rw [hnew call hcall]
      rfl

/-- Calls in one language, which is the one there was if there was one. -/
def KeepsTo (language : Option String) (calls : List SpeechCall) : Prop :=
  OneLanguage calls ∧ (language.isSome → InLanguage language calls)

theorem InLanguage.keepsTo (h : InLanguage language calls) : KeepsTo language calls :=
  ⟨h.one, fun _ => h⟩

end Calls

/-! ## Methods that recognise in one language -/

/-- A method whose calls are made in that language. -/
def SpeaksIn {σ : Type} (language : Option String) (u t : Traced σ) : Prop :=
  ∃ new, t.calls = u.calls ++ new ∧ ∀ call ∈ new, call = .transcribe language

section Frame

variable {σ τ ε α : Type} {language : Option String}

instance : Std.Refl (SpeaksIn (σ := σ) language) :=
  ⟨fun _ => ⟨[], (List.append_nil _).symm, nofun⟩⟩

instance : IsTrans (Traced σ) (SpeaksIn language) where
  trans _ _ _ := by
    rintro ⟨old, hold, hspoken⟩ ⟨new, hnew, hspoken'⟩
    refine ⟨old ++ new, by rw [hnew, hold, List.append_assoc], fun call hcall => ?_⟩
    exact (List.mem_append.mp hcall).elim (hspoken call) (hspoken' call)

theorem InLanguage.of_speaksIn {u t : Traced σ} (h : InLanguage language u.calls)
    (ht : SpeaksIn language u t) : InLanguage language t.calls := by
  obtain ⟨new, hnew, hspoken⟩ := ht
  rw [hnew]
  exact h.append hspoken

theorem speaksIn_on (m : Method ε σ α) : Within (SpeaksIn language) (on m) :=
  fun _ => ⟨[], (List.append_nil _).symm, nofun⟩

/-- A method that makes no calls keeps what is known of them. -/
theorem triple_on {P : List SpeechCall → Prop} (m : Method ε σ α) :
    Triple (fun u => P u.calls) (on m) (fun _ u => P u.calls) (fun _ u => P u.calls) :=
  triple_of_snd (fun _ hu => hu)

theorem speaksIn_ask (answer : Except ε α) :
    Within (SpeaksIn (σ := σ) language) (ask (.transcribe language) answer) :=
  fun _ => ⟨[.transcribe language], rfl, fun _ hcall => List.mem_singleton.mp hcall⟩

/-- The language is asked for. -/
theorem triple_detect (answer : Except ε α) :
    Triple (fun u : Traced σ => InLanguage none u.calls) (ask .detectLanguage answer)
      (fun a u => answer = .ok a ∧ InLanguage none u.calls) (fun _ u => InLanguage none u.calls) :=
  triple_bind (triple_modify (Q := fun _ u => InLanguage none u.calls) (fun _ hu => hu.detect))
    (fun _ => triple_ofExcept (fun _ ha _ hu => ⟨ha, hu⟩) (fun _ _ _ hu => hu))

theorem speaksIn_part {get : τ → σ} {set : τ → σ → τ} {m : Method ε (Traced σ) α}
    (hm : Within (SpeaksIn language) m) : Within (SpeaksIn language) (part get set m) :=
  fun u => hm ⟨get u.state, u.calls⟩

/-- What is known of the calls of a method is known in a larger state. -/
theorem triple_part {P : List SpeechCall → Prop} {Q : α → List SpeechCall → Prop}
    {E : ε → List SpeechCall → Prop} {get : τ → σ} {set : τ → σ → τ} {m : Method ε (Traced σ) α}
    (h : Triple (fun u => P u.calls) m (fun a u => Q a u.calls) (fun e u => E e u.calls)) :
    Triple (fun u => P u.calls) (part get set m) (fun a u => Q a u.calls)
      (fun e u => E e u.calls) := by
  intro u hu
  constructor
  · intro a t hm
    obtain ⟨v, hv, rfl⟩ := zoom_eq_ok hm
    exact h.ok (s := ⟨get u.state, u.calls⟩) hu hv
  · intro e t hm
    have herror : (m ⟨get u.state, u.calls⟩).1 = .error e := congrArg Prod.fst hm
    obtain rfl := congrArg Prod.snd hm
    exact h.error (s := ⟨get u.state, u.calls⟩) hu (Prod.ext herror rfl)

end Frame

variable {R V S : Type} [Field R] [LinearOrder R] [IsStrictOrderedRing R] [AddCommGroup V]
  [Module R V] [EmbeddingSpace R V]

namespace TracedPipeline

variable {p : OfflinePipeline R}

theorem speaksIn_transcribeSlices (adapters : PipelineAdapters R V S) (mono : AudioBuffer S)
    (n : ℕ) (slices : List TimeInterval) :
    Within (SpeaksIn p.sessionLanguage) (transcribeSlices p adapters mono n slices) := by
  induction slices generalizing n with
  | nil => exact within_pure _
  | cons interval rest ih =>
    unfold transcribeSlices
    split
    · exact ih (n + 1)
    · refine within_bind (within_ofExcept _) (fun crop => ?_)
      refine within_bind (speaksIn_ask _) (fun result => ?_)
      refine within_bind (ih (n + 1)) (fun found => ?_)
      dsimp only
      split
      · exact within_pure _
      · split
        · exact within_pure _
        · exact within_pure _

theorem speaksIn_mixtureFallback (adapters : PipelineAdapters R V S) (mono : AudioBuffer S)
    (region : OverlapRegion R) (decision : RouteDecision R) (warnings : List String) :
    Within (SpeaksIn p.sessionLanguage)
      (mixtureFallback p adapters mono region decision warnings) := by
  refine within_bind (within_ofExcept _) (fun crop => ?_)
  refine within_bind (speaksIn_ask _) (fun result => ?_)
  dsimp only
  split
  · exact within_pure _
  · refine within_bind (within_ofExcept _) (fun speech => ?_)
    split
    · exact within_pure _
    · exact within_pure _

theorem speaksIn_emitSources (adapters : PipelineAdapters R V S) (ulids : ℕ → String)
    (window : OfflinePipeline.WindowContext R)
    (sources : List (OfflinePipeline.SeparatedSource R V S × LinkingDecision R))
    (assignedInCrop : List String) (result : OfflinePipeline.CropResult R) :
    Within (SpeaksIn p.sessionLanguage)
      (emitSources p adapters ulids window sources assignedInCrop result) := by
  induction sources generalizing assignedInCrop result with
  | nil => exact within_pure _
  | cons source rest ih =>
    unfold emitSources
    refine within_bind (speaksIn_ask _) (fun asr => ?_)
    dsimp only
    split
    · exact ih assignedInCrop result
    · split
      · exact within_pure _
      · exact within_bind (speaksIn_on _) (fun speakerId =>
          within_bind (speaksIn_on _) (fun _ => ih _ _))

theorem speaksIn_separateWindows (adapters : PipelineAdapters R V S) (ulids : ℕ → String)
    (c : OfflinePipeline.RegionContext R S) (separator : SpeechSeparator R S) (n : ℕ)
    (windows : List (TimeInterval × TimeInterval)) (previousMapping : PreviousMapping)
    (result : OfflinePipeline.CropResult R) :
    Within (SpeaksIn p.sessionLanguage)
      (separateWindows p adapters ulids c separator n windows previousMapping result) := by
  induction windows generalizing n previousMapping result with
  | nil => exact within_pure _
  | cons window rest ih =>
    unfold separateWindows
    refine within_bind (within_ofExcept _) (fun heard => within_bind within_read (fun u => ?_))
    refine within_bind (within_ofExcept _) (fun linked => ?_)
    refine within_bind (speaksIn_emitSources _ _ _ _ _ _) (fun emitted => ?_)
    dsimp only
    split
    · exact ih _ _ _
    · exact within_pure _

theorem speaksIn_separateAndLink (adapters : PipelineAdapters R V S) (ulids : ℕ → String)
    (c : OfflinePipeline.RegionContext R S) (padded : TimeInterval)
    (separator : SpeechSeparator R S) :
    Within (SpeaksIn p.sessionLanguage)
      (separateAndLink p adapters ulids c padded separator) := by
  refine within_bind (within_ofExcept _) (fun windows => ?_)
  refine within_bind (speaksIn_separateWindows _ _ _ _ _ _ _ _) (fun emitted => ?_)
  dsimp only
  split
  · exact within_pure _
  · exact within_bind (speaksIn_mixtureFallback _ _ _ _ _) (fun _ => within_pure _)

/-- **Whatever becomes of a region**, it is recognised in the language of the
pipeline: as its sources, as the mixture after them, or as the mixture alone. -/
theorem speaksIn_handleOverlapRegion (adapters : PipelineAdapters R V S) (ulids : ℕ → String)
    (c : OfflinePipeline.RegionContext R S) :
    Within (SpeaksIn p.sessionLanguage) (handleOverlapRegion p adapters ulids c) := by
  have hmixture : ∀ warnings degraded,
      Within (SpeaksIn p.sessionLanguage) (mixture p adapters c warnings degraded) :=
    fun warnings degraded =>
      within_bind (speaksIn_mixtureFallback _ _ _ _ _) (fun found => within_pure _)
  have hattempt : ∀ separator n crop,
      Within (SpeaksIn p.sessionLanguage) (attempt p adapters ulids c separator n crop) :=
    fun separator n crop =>
      within_bind (speaksIn_separateAndLink _ _ _ _ _) (fun _ => within_pure _)
  unfold handleOverlapRegion
  split
  · exact hmixture _ _
  · split
    · exact hmixture _ _
    · refine within_bind (within_catchIf (hattempt _ _ _) (fun _ =>
        within_catchIf (hattempt _ _ _) (fun _ => within_pure none))) (fun attempted => ?_)
      cases attempted with
      | none => exact hmixture _ _
      | some found => exact within_pure _

/-! ### Deciding on the language -/

/-- What was decided on: what there was, or, where there was nothing, what the
detector has told. -/
def Resolved (p : OfflinePipeline R) (detectLanguage : AudioBuffer S → Except PyError (String × R))
    (pinned decided : Option String) : Prop :=
  decided = pinned ∨ ((p.speaking pinned).sessionLanguage = none ∧
    ∃ language buffer probability, decided = some language
      ∧ detectLanguage buffer = .ok (language, probability))

omit [AddCommGroup V] [Module R V] [EmbeddingSpace R V] in
/-- **Deciding on the language** leaves calls in the language there is then. -/
theorem inLanguage_resolveSessionLanguage
    (detectLanguage : AudioBuffer S → Except PyError (String × R)) (pinned : Option String)
    (mono : AudioBuffer S) (speech : List TimeInterval) :
    Triple (fun u => InLanguage (p.speaking pinned).sessionLanguage u.calls)
      (resolveSessionLanguage (V := V) p detectLanguage pinned mono speech)
      (fun decided u => InLanguage (p.speaking decided.1).sessionLanguage u.calls
        ∧ Resolved p detectLanguage pinned decided.1)
      (fun _ u => InLanguage (p.speaking pinned).sessionLanguage u.calls) := by
  unfold resolveSessionLanguage
  dsimp only
  split
  · exact triple_pure (fun u hu => ⟨hu, Or.inl rfl⟩)
  · next hopen =>
    push Not at hopen
    obtain ⟨hconfig, -, hpinned⟩ := hopen
    obtain rfl : pinned = none := Option.not_isSome_iff_eq_none.mp hpinned
    have hlanguage : ∀ pinned, (p.speaking pinned).sessionLanguage = pinned :=
      fun _ => if_neg hconfig
    refine triple_bind (triple_ofExcept (fun pooled _ _ hu => hu) (fun _ _ _ hu => hu))
      (fun pooled => ?_)
    cases pooled with
    | none => exact triple_pure (fun u hu => ⟨hu, Or.inl rfl⟩)
    | some pooled =>
      rw [hlanguage none]
      refine triple_bind (triple_detect _) (fun detected => ?_)
      split
      · refine triple_pure (fun u hu => ⟨?_, Or.inl rfl⟩)
        rw [hlanguage none]
        exact hu.2
      · refine triple_pure (fun u hu => ⟨hu.2.decide, Or.inr ⟨hlanguage none, ?_⟩⟩)
        exact ⟨detected.1, pooled, detected.2, rfl, hu.1⟩

/-- A language there is stays the language. -/
theorem Resolved.sessionLanguage {detectLanguage : AudioBuffer S → Except PyError (String × R)}
    {pinned decided : Option String} (h : Resolved p detectLanguage pinned decided)
    (hsome : (p.speaking pinned).sessionLanguage.isSome) :
    (p.speaking decided).sessionLanguage = (p.speaking pinned).sessionLanguage := by
  rcases h with rfl | ⟨hnone, -⟩
  · rfl
  · rw [hnone] at hsome
    cases hsome

/-! ### The run -/

theorem keepsTo_wordGroups (models : OfflineModels R V S) (ulids : ℕ → String)
    (pinned : Option String) (mono : AudioBuffer S) (diarization : DiarizationResult R)
    (regions : List (OverlapRegion R)) :
    Triple (fun u => InLanguage (p.speaking pinned).sessionLanguage u.calls)
      (wordGroups p models ulids pinned mono diarization regions)
      (fun _ u => KeepsTo (p.speaking pinned).sessionLanguage u.calls)
      (fun _ u => KeepsTo (p.speaking pinned).sessionLanguage u.calls) := by
  refine triple_bind (triple_ofExcept (fun _ _ _ hu => hu) (fun _ _ _ hu => hu.keepsTo))
    (fun speech => ?_)
  refine triple_bind ((inLanguage_resolveSessionLanguage _ _ _ _).weaken (fun _ hu => hu)
    (fun _ _ hu => hu) (fun _ _ hu => hu.keepsTo)) (fun decided => ?_)
  -- from here on, whatever happens, the language is the one that was decided on
  refine triple_of_snd (fun u hu => ?_)
  have hspeaks : ∀ {α : Type} {m : Method PyError (Traced (Session R V)) α},
      Within (SpeaksIn (p.speaking decided.1).sessionLanguage) m →
        KeepsTo (p.speaking pinned).sessionLanguage (m u).2.calls := fun hm =>
    have hcalls := hu.1.of_speaksIn (hm u)
    ⟨hcalls.one, fun hsome => hu.2.sessionLanguage hsome ▸ hcalls⟩
  refine hspeaks (within_bind (speaksIn_transcribeSlices _ _ _ _) (fun alone => ?_))
  exact within_bind (within_mapEach (fun x _ => speaksIn_handleOverlapRegion _ _ _))
    (fun together => within_pure _)

/-- **A run keeps to a language.** -/
theorem keepsTo_runOn (c : RunContext R) (models : OfflineModels R V S) (ulids : ℕ → String)
    (pinned : Option String) :
    Triple (fun u => InLanguage (p.speaking pinned).sessionLanguage u.calls)
      (runOn p c models ulids pinned)
      (fun _ u => KeepsTo (p.speaking pinned).sessionLanguage u.calls)
      (fun _ u => KeepsTo (p.speaking pinned).sessionLanguage u.calls) := by
  refine triple_bind (triple_ofExcept (fun _ _ _ hu => hu) (fun _ _ _ hu => hu.keepsTo))
    (fun mono => ?_)
  refine triple_bind (triple_ofExcept (fun _ _ _ hu => hu) (fun _ _ _ hu => hu.keepsTo))
    (fun diarization => ?_)
  refine triple_bind (triple_ofExcept (fun _ _ _ hu => hu) (fun _ _ _ hu => hu.keepsTo))
    (fun osd => ?_)
  refine triple_bind ((triple_on _).weaken (fun _ hu => hu) (fun _ _ hu => hu)
    (fun _ _ hu => hu.keepsTo)) (fun _ => ?_)
  refine triple_bind (keepsTo_wordGroups _ _ _ _ _ _) (fun recognised => ?_)
  exact triple_bind (triple_on _) (fun _ => triple_bind (triple_on _)
    (fun segments => triple_pure (fun _ hu => hu)))

/-- **A run of the offline pipeline has one language**, whatever its models do,
and whether it returns or raises. -/
theorem oneLanguage_run (c : RunContext R) (models : OfflineModels R V S) (ulids : ℕ → String)
    (pinned : Option String) : OneLanguage (run p c models ulids pinned []).2.calls :=
  ((keepsTo_runOn c models ulids pinned).snd inLanguage_nil).1

end TracedPipeline

/-! ## Sessions -/

namespace TracedSession

variable {c : StreamingContext R} {u t : Traced (RollingSession R V S)}

/-- **The calls of a session are in the language it has.** -/
structure HasLanguage (c : StreamingContext R) (u : Traced (RollingSession R V S)) : Prop where
  calls : InLanguage (sessionLanguage c u.state) u.calls
  /-- What is pinned is the code of a language. -/
  pinned : u.state.pinnedLanguage ≠ some ""

/-- The calls are in one language, which is that of the session if it has
one. -/
structure Settled (c : StreamingContext R) (u : Traced (RollingSession R V S)) : Prop where
  calls : KeepsTo (sessionLanguage c u.state) u.calls
  pinned : u.state.pinnedLanguage ≠ some ""

omit [AddCommGroup V] [Module R V] [EmbeddingSpace R V] in
theorem HasLanguage.settled (h : HasLanguage c u) : Settled c u := ⟨h.calls.keepsTo, h.pinned⟩

/-- A method that calls in a language, and leaves what is pinned. -/
structure SpeaksOn (language : Option String) (u t : Traced (RollingSession R V S)) : Prop where
  calls : SpeaksIn language u t
  pinned : t.state.pinnedLanguage = u.state.pinnedLanguage

/-- A method that makes no calls, and leaves what is pinned. -/
structure Silent (u t : Traced (RollingSession R V S)) : Prop where
  calls : t.calls = u.calls
  pinned : t.state.pinnedLanguage = u.state.pinnedLanguage

section Frame

variable {α : Type} {language : Option String}

omit [AddCommGroup V] [Module R V] [EmbeddingSpace R V]

instance : Std.Refl (SpeaksOn (R := R) (V := V) (S := S) language) :=
  ⟨fun _ => ⟨Std.Refl.refl _, rfl⟩⟩

instance : IsTrans (Traced (RollingSession R V S)) (SpeaksOn language) where
  trans _ _ _ h h' := ⟨IsTrans.trans _ _ _ h.calls h'.calls, h'.pinned.trans h.pinned⟩

instance : Std.Refl (Silent (R := R) (V := V) (S := S)) := ⟨fun _ => ⟨rfl, rfl⟩⟩

instance : IsTrans (Traced (RollingSession R V S)) Silent where
  trans _ _ _ h h' := ⟨h'.calls.trans h.calls, h'.pinned.trans h.pinned⟩

theorem Silent.speaksOn (h : Silent u t) : SpeaksOn language u t :=
  ⟨⟨[], by rw [h.calls, List.append_nil], nofun⟩, h.pinned⟩

theorem HasLanguage.of_speaksOn (h : HasLanguage c u)
    (ht : SpeaksOn (sessionLanguage c u.state) u t) : HasLanguage c t where
  calls := by
    unfold sessionLanguage
    rw [ht.pinned]
    exact h.calls.of_speaksIn ht.calls
  pinned := ht.pinned ▸ h.pinned

theorem Settled.of_silent (h : Settled c u) (ht : Silent u t) : Settled c t where
  calls := by
    unfold sessionLanguage
    rw [ht.pinned, ht.calls]
    exact h.calls
  pinned := ht.pinned ▸ h.pinned

theorem silent_onStreaming (m : Method PyError (StreamingSession R V) α) :
    Within Silent (on (RollingSession.onStreaming (S := S) m)) := fun _ => ⟨rfl, rfl⟩

theorem silent_modify {f : RollingSession R V S → RollingSession R V S}
    (hf : ∀ s, (f s).pinnedLanguage = s.pinnedLanguage) :
    Within Silent (on (.modify f : Method PyError _ Unit)) := fun u => ⟨rfl, hf u.state⟩

theorem silent_on {m : Method PyError (RollingSession R V S) α}
    (hm : Within (InvImage (· = ·) RollingSession.pinnedLanguage) m) : Within Silent (on m) :=
  fun u => ⟨rfl, (hm u.state).symm⟩

theorem speaksOn_onSession {m : Method PyError (Traced (Session R V)) α}
    (hm : Within (SpeaksIn language) m) : Within (SpeaksOn language) (onSession (S := S) m) :=
  fun u => ⟨speaksIn_part hm u, rfl⟩

/-- A method without calls keeps to the language. -/
theorem triple_of_silent {m : Method PyError (Traced (RollingSession R V S)) α}
    (hm : Within Silent m) :
    Triple (HasLanguage c) m (fun _ => HasLanguage c) (fun _ => HasLanguage c) :=
  triple_of_snd (fun u hu => hu.of_speaksOn (hm u).speaksOn)

theorem silent_publish (closed : List TimeInterval) (turns : List (SpeakerTurn R))
    (calls : List (List (WordGroup R))) :
    Within (Silent (V := V) (S := S)) (on (RollingSession.publish c closed turns calls)) :=
  silent_on (within_bind within_read (fun _ => within_bind (fun _ => rfl) (fun _ =>
    within_bind (within_modify (fun _ => rfl)) (fun _ => within_pure _))))

end Frame

/-! ### A rolling step -/

/-- What the detector tells are codes of languages. -/
def HasCodes (detectLanguage : AudioBuffer S → Except PyError (String × R)) : Prop :=
  ∀ buffer language probability, detectLanguage buffer = .ok (language, probability) →
    language ≠ ""

theorem speaksIn_closedGroups (models : RollingModels R V S) (p : OfflinePipeline R)
    (closes : ℕ → Bool) (mono : AudioBuffer S) (diarization : DiarizationResult R)
    (regions : List (OverlapRegion R)) (emittedUntilMs : ℕ) (interval : TimeInterval) :
    Within (SpeaksIn p.sessionLanguage)
      (closedGroups c models p closes mono diarization regions emittedUntilMs interval) := by
  refine within_bind (within_ofExcept _) (fun pending => ?_)
  refine within_bind (TracedPipeline.speaksIn_transcribeSlices _ _ _ _) (fun alone => ?_)
  dsimp only
  refine within_bind (within_mapEach (fun x _ => ?_)) (fun together => within_pure _)
  unfold regionGroups
  split
  · exact within_pure _
  · split
    · exact within_pure _
    · exact within_bind (TracedPipeline.speaksIn_handleOverlapRegion _ _ _)
        (fun result => within_pure _)

theorem hasLanguage_resolveLanguage {models : RollingModels R V S}
    (hcodes : HasCodes models.detectLanguage) (mono : AudioBuffer S) (speech : List TimeInterval) :
    Triple (HasLanguage c) (resolveLanguage c models mono speech) (fun _ => HasLanguage c)
      (fun _ => HasLanguage c) := by
  refine triple_read (fun u hu => ?_)
  have hresolve : Triple
      (fun v => InLanguage (sessionLanguage c u.state) v.calls)
      (onSession (S := S) (TracedPipeline.resolveSessionLanguage (V := V) c.pipeline
        models.detectLanguage u.state.pinnedLanguage mono speech))
      (fun decided v => InLanguage (c.pipeline.speaking decided.1).sessionLanguage v.calls
        ∧ TracedPipeline.Resolved c.pipeline models.detectLanguage u.state.pinnedLanguage decided.1)
      (fun _ v => InLanguage (sessionLanguage c u.state) v.calls) :=
    triple_part (P := InLanguage _) (E := fun _ => InLanguage _)
      (Q := fun (decided : Option String × List String) calls =>
        InLanguage (c.pipeline.speaking decided.1).sessionLanguage calls
          ∧ TracedPipeline.Resolved c.pipeline models.detectLanguage u.state.pinnedLanguage
            decided.1)
      (TracedPipeline.inLanguage_resolveSessionLanguage _ _ _ _)
  have hdecide : Triple (fun v => v = u ∧ HasLanguage c v)
      (onSession (S := S) (TracedPipeline.resolveSessionLanguage (V := V) c.pipeline
        models.detectLanguage u.state.pinnedLanguage mono speech))
      (fun decided v => InLanguage (c.pipeline.speaking decided.1).sessionLanguage v.calls
        ∧ decided.1 ≠ some "") (fun _ => HasLanguage c) := by
    rintro v ⟨rfl, hv⟩
    constructor
    · intro decided t hrun
      obtain ⟨hcalls, hresolved⟩ := hresolve.ok hv.calls hrun
      refine ⟨hcalls, ?_⟩
      rcases hresolved with hsame | ⟨-, language, buffer, probability, hlanguage, hdetected⟩
      · rw [hsame]
        exact hv.pinned
      · rw [hlanguage]
        exact fun hempty => hcodes buffer language probability hdetected (Option.some.inj hempty)
    · intro e t hrun
      have hpinned : t.state.pinnedLanguage = v.state.pinnedLanguage :=
        (congrArg (fun r => r.2.state.pinnedLanguage) hrun).symm
      refine ⟨?_, hpinned ▸ hv.pinned⟩
      unfold sessionLanguage
      rw [hpinned]
      exact hresolve.error hv.calls hrun
  refine triple_bind hdecide (fun decided => triple_of_snd (fun v hv => ?_))
  show HasLanguage c ⟨{ v.state with pinnedLanguage := decided.1 }, v.calls⟩
  exact ⟨hv.1, hv.2⟩

/-- **A rolling step** recognises in the language of the session. -/
theorem hasLanguage_process {models : RollingModels R V S}
    (hcodes : HasCodes models.detectLanguage) (forceClose : Bool) :
    Triple (HasLanguage c) (process c models forceClose) (fun _ => HasLanguage c)
      (fun _ => HasLanguage c) := by
  refine triple_bind (triple_of_silent (silent_modify (fun _ => rfl))) (fun _ => ?_)
  refine triple_read_of_forall (fun u => ?_)
  cases u.state.windowBuffer c with
  | none => exact triple_pure (fun _ hv => hv)
  | some mono =>
    refine triple_bind (triple_of_silent (within_ofExcept _)) (fun diarization => ?_)
    refine triple_bind (triple_of_silent (within_ofExcept _)) (fun osd => ?_)
    refine triple_bind (triple_of_silent (silent_onStreaming _)) (fun _ => ?_)
    refine triple_bind (triple_of_silent (within_ofExcept _)) (fun speech => ?_)
    refine triple_bind (hasLanguage_resolveLanguage hcodes _ _) (fun _ => ?_)
    -- the language has been decided on, and all crops are recognised in it
    refine triple_read (fun u hu => triple_of_snd ?_)
    rintro v ⟨rfl, hv⟩
    refine hv.of_speaksOn ?_
    dsimp only
    split
    · exact (silent_onStreaming _ v).speaksOn
    · refine within_bind (speaksOn_onSession (within_mapEach
        (fun _ _ => speaksIn_closedGroups _ _ _ _ _ _ _ _))) (fun calls => ?_) v
      exact within_bind (fun v => (silent_publish _ _ _ v).speaksOn) (fun events =>
        within_bind (fun v => (silent_onStreaming _ v).speaksOn) (fun changes => within_pure _))

/-! ### The final pass -/

omit [AddCommGroup V] [Module R V] [EmbeddingSpace R V] in
/-- The final pass starts with the language of the session. -/
theorem sessionLanguage_finalPipeline {s : RollingSession R V S}
    (hpinned : s.pinnedLanguage ≠ some "") :
    ((finalPipeline c).speaking (pinLanguage (sessionLanguage c s))).sessionLanguage
      = sessionLanguage c s := by
  show (if truthy c.pipeline.config.asr.language then c.pipeline.config.asr.language
    else pinLanguage (sessionLanguage c s)) = sessionLanguage c s
  unfold sessionLanguage OfflinePipeline.speaking
  dsimp only
  split
  · rfl
  · unfold pinLanguage truthy
    cases hcode : s.pinnedLanguage with
    | none => rfl
    | some language =>
      rw [hcode] at hpinned
      exact if_pos (by simpa using hpinned)

/-- **The final pass keeps to the language of the session**, if that has one. -/
theorem settled_finalPass (pass : FinalPass R V S) :
    Triple (HasLanguage c) (finalPass c pass) (fun _ => Settled c) (fun _ => Settled c) := by
  refine triple_read (fun u hu => ?_)
  split
  · exact triple_pure (fun t ht => ht.2.settled)
  · refine triple_bind (Q := fun _ => Settled c) (triple_of_snd ?_)
      (fun result => triple_of_snd (fun t ht => ht.of_silent (silent_onStreaming _ t)))
    rintro t ⟨rfl, ht⟩
    have hlanguage := sessionLanguage_finalPipeline (c := c) ht.pinned
    have hrun := (TracedPipeline.keepsTo_runOn (p := finalPipeline c) pass.context pass.models
      pass.ulids (pinLanguage (sessionLanguage c t.state))).snd
        (s := ⟨⟨.new pass.context.sessionId (finalPipeline c).config
          pass.context.embeddingModelVersion, 0⟩, t.calls⟩)
    rw [hlanguage] at hrun
    exact ⟨hrun ht.calls, ht.pinned⟩

/-- **Closing the session once more** is asked for only where no call was made in
a language that is forgotten by now. -/
def MayFinalize (c : StreamingContext R) (u : Traced (RollingSession R V S)) :
    TracedCommand R V S → Prop
  | .finalize _ _ => u.state.isFinalized = false → sessionLanguage c u.state = none →
      ∀ call ∈ u.calls, call.language = none
  | .start | .push _ _ | .fail _ _ | .replay _ => True

instance (c : StreamingContext R) (u : Traced (RollingSession R V S)) :
    (command : TracedCommand R V S) → Decidable (MayFinalize c u command)
  | .finalize _ _ => inferInstanceAs (Decidable (_ → _ → _))
  | .start | .push _ _ | .fail _ _ | .replay _ => inferInstanceAs (Decidable True)

/-! ### Whole sessions -/

/-- **The language of a session that goes on**: while audio is awaited its calls
are in the language it has. -/
structure Heeds (c : StreamingContext R) (u : Traced (RollingSession R V S)) : Prop where
  settled : Settled c u
  awaiting : u.state.stateMachine = .created ∨ u.state.stateMachine = .streaming → HasLanguage c u

omit [AddCommGroup V] [Module R V] [EmbeddingSpace R V] in
theorem HasLanguage.heeds (h : HasLanguage c u) : Heeds c u := ⟨h.settled, fun _ => h⟩

omit [AddCommGroup V] [Module R V] [EmbeddingSpace R V] in
/-- A session that may be closed has no language that is forgotten. -/
theorem Settled.hasLanguage (h : Settled c u)
    (hcalls : sessionLanguage c u.state = none → ∀ call ∈ u.calls, call.language = none) :
    HasLanguage c u where
  calls := by
    cases hlanguage : sessionLanguage c u.state with
    | none => exact inLanguage_of_undecided (hcalls hlanguage)
    | some language => exact hlanguage ▸ h.calls.2 (hlanguage ▸ rfl)
  pinned := h.pinned

/-- **A session that is closed awaits no audio**, whether closing it returns or
raises. -/
theorem stateMachine_finalize {s : RollingSession R V S} (hopen : ¬ s.isFinalized = true)
    (models : RollingModels R V S) (pass : Except PyError (OfflineResult R)) :
    (RollingSession.finalize c models pass s).2.stateMachine = .finalizing
      ∨ (RollingSession.finalize c models pass s).2.stateMachine = .finalized := by
  have htalks : ∀ {α : Type} {m : Method PyError (RollingSession R V S) α},
      Within RollingSession.Talks m → Triple (fun t => t.stateMachine = .finalizing) m
        (fun _ t => t.stateMachine = .finalizing)
        (fun _ t => t.stateMachine = .finalizing ∨ t.stateMachine = .finalized) := fun hm =>
    (triple_of_snd (I := fun t => t.stateMachine = .finalizing)
      (fun t ht => (hm t).stateMachine.trans ht)).weaken (fun _ ht => ht) (fun _ _ ht => ht)
      (fun _ _ ht => Or.inl ht)
  unfold RollingSession.finalize
  rw [read_bind, if_neg hopen, modify_bind]
  refine Triple.snd (P := fun t : RollingSession R V S => t.stateMachine = .finalizing)
    (I := fun t => t.stateMachine = .finalizing ∨ t.stateMachine = .finalized)
    (triple_bind (htalks (RollingSession.talks_process models true)) (fun events =>
      triple_bind (htalks (RollingSession.talks_onStreaming
        (StreamingSession.reports_finalPass c.supply pass))) (fun finals =>
          triple_bind (triple_modify (Q := fun _ t => t.stateMachine = .finalized) (fun _ _ => rfl))
            (fun _ => triple_of_snd ?_)))) rfl
  intro t ht
  rw [read_bind, bind_pure_snd]
  exact Or.inr ht

/-- **Closing a session** that may be closed keeps to its language. -/
theorem settled_finalize {models : RollingModels R V S} (hcodes : HasCodes models.detectLanguage)
    (pass : FinalPass R V S) (hopen : ¬ u.state.isFinalized = true) (hu : HasLanguage c u) :
    Settled c (finalize c models pass u).2 := by
  unfold finalize
  rw [read_bind, if_neg hopen]
  refine Triple.snd (P := HasLanguage c) (triple_bind (Q := fun _ => HasLanguage c) ?_ (fun _ =>
    triple_bind ((hasLanguage_process hcodes true).weaken (fun _ ht => ht) (fun _ _ ht => ht)
      (fun _ _ ht => ht.settled)) (fun events => triple_bind (settled_finalPass pass)
        (fun finals => triple_of_snd (fun t ht => ht.of_silent ?_))))) hu
  · exact (triple_of_silent (m := on _) (fun _ => ⟨rfl, rfl⟩)).weaken (fun _ ht => ht)
      (fun _ _ ht => ht) (fun _ _ ht => ht.settled)
  · exact within_bind (fun _ => ⟨rfl, rfl⟩) (fun _ => within_bind within_read (fun _ =>
      within_bind (silent_onStreaming _) (fun last => within_pure _))) t

/-- What the detector of a command tells are codes of languages. -/
def CommandHasCodes : TracedCommand R V S → Prop
  | .push models _ | .finalize models _ => HasCodes models.detectLanguage
  | .start | .fail _ _ | .replay _ => True

/-- **A command** keeps a session to its language. -/
theorem heeds_step {command : TracedCommand R V S} (hu : Heeds c u)
    (hcodes : CommandHasCodes command) (hmay : MayFinalize c u command) :
    Heeds c (step c u command) := by
  cases command with
  | start =>
    show Heeds c (on (RollingSession.start c) u).2
    by_cases hcreated : u.state.stateMachine = .created
    · have hstart : Within (InvImage (· = ·) (RollingSession.pinnedLanguage (S := S)))
          (RollingSession.start (V := V) c) := by
        refine within_bind within_read (fun s => ?_)
        split
        · exact within_throw _
        · exact within_bind (within_modify (fun _ => rfl)) (fun _ => fun _ => rfl)
      exact ((hu.awaiting (Or.inl hcreated)).of_speaksOn (silent_on hstart u).speaksOn).heeds
    · have hraised : RollingSession.start c u.state
          = (.error (.sastt .sasttError "session already started" []), u.state) := by
        unfold RollingSession.start
        rw [read_bind, if_pos hcreated]
        rfl
      rw [on, zoom_eq hraised]
      exact hu
  | push models frame =>
    show Heeds c (push c models frame u).2
    unfold push
    rw [read_bind]
    split
    · exact hu
    · next hstreaming =>
      refine HasLanguage.heeds (Triple.snd (P := HasLanguage c) (triple_bind
        (triple_of_silent (m := on _) (fun _ => ⟨rfl, rfl⟩))
        (fun _ => triple_read_of_forall (fun v => ?_)))
        (hu.awaiting (Or.inr (not_not.mp hstreaming))))
      split
      · exact hasLanguage_process hcodes false
      · exact triple_pure (fun _ ht => ht)
  | finalize models pass =>
    show Heeds c (finalize c models pass u).2
    by_cases hopen : u.state.isFinalized = true
    · have hdone : finalize c models pass u = (.ok [], u) := by
        unfold finalize
        rw [read_bind, if_pos hopen]
        rfl
      rw [hdone]
      exact hu
    · refine ⟨settled_finalize hcodes pass hopen
        (hu.settled.hasLanguage (hmay (Bool.eq_false_iff.mpr hopen))), fun hawaiting => ?_⟩
      rw [(refinesAt_finalize models pass u).2] at hawaiting
      have hclosing := stateMachine_finalize (c := c) hopen models (secondPass c pass
        (RollingSession.process c models true { u.state with stateMachine := .finalizing }).2)
      rcases hclosing with hclosing | hclosing <;> rw [hclosing] at hawaiting <;>
        rcases hawaiting with hawaiting | hawaiting <;> cases hawaiting
  | fail errorCode message =>
    exact ⟨hu.settled.of_silent ⟨rfl, rfl⟩, by rintro (hawaiting | hawaiting) <;> cases hawaiting⟩
  | replay lastSequenceNumber => exact hu

omit [AddCommGroup V] [Module R V] [EmbeddingSpace R V] in
theorem heeds_new (modelVersions : ModelVersions) (embeddingModelVersion : String) :
    Heeds c (new (V := V) (S := S) c modelVersions embeddingModelVersion) :=
  HasLanguage.heeds ⟨inLanguage_nil, nofun⟩

/-- **One session, one language.** A run of the offline pipeline makes its calls
in one language. So does a streaming session with its final pass, unless it is
closed once more after a final pass that has decided on a language and raised. -/
theorem sessions_keep_one_language :
    (∀ (p : OfflinePipeline R) (context : RunContext R) (models : OfflineModels R V S)
        (ulids : ℕ → String) (pinned : Option String),
      OneLanguage (TracedPipeline.run p context models ulids pinned []).2.calls)
    ∧ ∀ (c : StreamingContext R) (modelVersions : ModelVersions) (embeddingModelVersion : String)
        (commands : List (TracedCommand R V S)), (∀ command ∈ commands, CommandHasCodes command) →
      EachStep (step c) (MayFinalize c) (new c modelVersions embeddingModelVersion) commands →
        Along (step c) (fun u => OneLanguage u.calls) (new c modelVersions embeddingModelVersion)
          commands := by
  refine ⟨fun p context models ulids pinned =>
    TracedPipeline.oneLanguage_run context models ulids pinned, ?_⟩
  intro c modelVersions embeddingModelVersion commands hcodes hmay
  have hheeds : Along (step c) (Heeds c) (new c modelVersions embeddingModelVersion) commands :=
    along_of_eachStep (C := fun u command => CommandHasCodes command ∧ MayFinalize c u command)
      (heeds_new modelVersions embeddingModelVersion)
      (fun u command hu hC => heeds_step hu hC.1 hC.2) (fun pre command hpre =>
        ⟨hcodes command (hpre.subset (List.mem_append_right pre List.mem_cons_self)),
          hmay pre command hpre⟩)
  exact fun pre hpre => (hheeds pre hpre).settled.calls.1

/-! ### A session that is closed twice -/

/-- A session that identifies the language from a tenth of a second of speech. -/
def shortSample : StreamingContext ℚ := .ofConfig {
  asr := { languageDetection := { LanguageDetectionConfig.default with
    sampleSeconds := 1 / 10
    sample_pos := tenth_pos } } }

/-- Models that hear two words' worth of speech and understand none of it. The
language is taken to be `language`, and the second slice is recognised if
`ready`. -/
def twoSlices (language : String) (ready : Bool) : OfflineModels ℚ ℚ Unit where
  decoded := .ok ⟨200, recordedSilence 3199⟩
  adapters := {
    vad := fun _ _ => .ok [⟨0, 60, by decide⟩, ⟨100, 160, by decide⟩]
    transcribe := fun place _ _ _ =>
      if place = [1, 1] ∧ ready = false then .error (.sastt .modelNotReady "model not loaded" [])
      else .ok {
        words := []
        detectedLanguage := language
        languageScore := none
        modelVersion := "whisper" }
    embed := fun _ _ _ _ _ _ => noVoice }
  diarizer _ := .ok (.found [] [])
  overlapDetector _ := .ok []
  detectLanguage _ := .ok (language, 1)

/-- A rolling step of the same models, while nobody speaks. -/
def quiet (models : OfflineModels ℚ ℚ Unit) : RollingModels ℚ ℚ Unit where
  adapters := { models.adapters with vad := fun _ _ => .ok [] }
  diarizer := models.diarizer
  overlapDetector := models.overlapDetector
  detectLanguage := models.detectLanguage

/-- The session is closed, with a final pass of those models. -/
def closeWith (models : OfflineModels ℚ ℚ Unit) : TracedCommand ℚ ℚ Unit :=
  .finalize (quiet models) {
    context := .ofSession
    models
    ulids := toString }

/-- A tenth of a second of audio is pushed. -/
def someAudio : List (TracedCommand ℚ ℚ Unit) :=
  [.start, .push (quiet (twoSlices "vi" true)) (List.replicate 1600 ())]

/-- A session that is closed once. -/
theorem one_language_of_one_close :
    Along (step shortSample) (fun u => OneLanguage u.calls) (new shortSample {} "campplus")
      (someAudio ++ [closeWith (twoSlices "vi" false)]) := by
  refine (sessions_keep_one_language (R := ℚ) (V := ℚ) (S := Unit)).2 shortSample {} "campplus" _
    (fun command hcommand => ?_) (by decide +kernel)
  have hcodes : ∀ language ready, language ≠ "" →
      HasCodes (quiet (twoSlices language ready)).detectLanguage := by
    rintro _ _ hlanguage _ _ _ ⟨⟩
    exact hlanguage
  simp only [someAudio, List.cons_append, List.nil_append, List.mem_cons, List.not_mem_nil,
    or_false] at hcommand
  rcases hcommand with rfl | rfl | rfl
  · trivial
  · exact hcodes "vi" true (by decide)
  · exact hcodes "vi" false (by decide)

/-- **A language is decided on twice.** The final pass takes the recording to be
Vietnamese and raises at the second slice, since the model has been unloaded; the
next one takes it to be English. -/
theorem decided_twice : ¬ Along (step shortSample) (fun u => OneLanguage u.calls)
    (new shortSample {} "campplus")
    (someAudio ++ [closeWith (twoSlices "vi" false), closeWith (twoSlices "en" true)]) :=
  fun h => absurd (h _ (List.prefix_refl _)) (by decide +kernel)

end TracedSession

end Sastt
