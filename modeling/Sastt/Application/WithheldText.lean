import Sastt.Application.PublishedSpeakers
import Sastt.Application.WatchedRuns
import Sastt.Lib.Logs

/-!
# Text that is withheld

The pipeline does not believe every transcript. What a recogniser made of a
slice, of a separated source or of the mixture of a region is withheld when it
is impossible for the speech that was heard, and then a warning is to say so and
the result to be degraded (`Admits`).

The warnings go by three ways: as a list that is filled while the slices are
recognised, as part of what a region returns, and, when the separation of a
region raises, not at all: the region is separated once more, and what the first
attempt had to say is forgotten. This matters only if the first attempt withheld
something before it raised. It does so after its last source, so what raises then
is the recognition of the mixture. A recogniser and a detector that leave
`SeparationFailedError` to the separator do not raise there, and with them every
run admits all it withholds (`WatchedPipeline.admits_run`).
-/

namespace Sastt

open Method WatchedRun

variable {R V S : Type}

/-! ## What is written down -/

/-- What was heard, in the order it was heard. -/
def hearings (notes : List (Note R)) : List (Hearing R) :=
  notes.filterMap fun n =>
    match n with
    | .heard h => some h
    | .failed _ | .abandoned _ => none

theorem heard_of_mem_hearings {notes : List (Note R)} {h : Hearing R} (hh : h ∈ hearings notes) :
    .heard h ∈ notes := by
  obtain ⟨n, hn, hnh⟩ := List.mem_filterMap.mp hh
  cases n with
  | heard h' =>
    cases hnh
    exact hn
  | failed region => cases hnh
  | abandoned region => cases hnh

theorem hearings_append (notes more : List (Note R)) :
    hearings (notes ++ more) = hearings notes ++ hearings more := List.filterMap_append ..

/-- **The words come from hearings that were believed**, each hearing once. -/
def Spoken (notes : List (Note R)) (groups : List (WordGroup R)) : Prop :=
  ∃ heard : List (Hearing R), heard.Sublist (hearings notes) ∧ (∀ h ∈ heard, h.believed = true)
    ∧ groups.map WordGroup.words = heard.map Hearing.words

theorem spoken_nil (notes : List (Note R)) : Spoken notes [] :=
  ⟨[], List.nil_sublist _, fun _ h => absurd h List.not_mem_nil, rfl⟩

/-- One group, from the hearing just written down. -/
theorem spoken_single {h : Hearing R} {group : WordGroup R} (hwords : group.words = h.words)
    (hbelieved : h.believed = true) : Spoken [.heard h] [group] :=
  ⟨[h], List.Sublist.refl _, fun h' hh' => by rwa [List.mem_singleton.mp hh'],
    congrArg (fun ws => [ws]) hwords⟩

theorem Spoken.append {notes more : List (Note R)} {groups groups' : List (WordGroup R)}
    (h : Spoken notes groups) (h' : Spoken more groups') :
    Spoken (notes ++ more) (groups ++ groups') := by
  obtain ⟨heard, hsub, hbelieved, hwords⟩ := h
  obtain ⟨heard', hsub', hbelieved', hwords'⟩ := h'
  refine ⟨heard ++ heard', ?_, ?_, ?_⟩
  · rw [hearings_append]
    exact hsub.append hsub'
  · intro x hx
    exact (List.mem_append.mp hx).elim (hbelieved x) (hbelieved' x)
  · rw [List.map_append, List.map_append, hwords, hwords']

/-- **What was withheld is admitted**, of a part of a run: the words of the groups
are those of hearings that were believed, every hearing that was rejected left its
warning and degraded the part, and a region whose separation was given up was
heard as a mixture. -/
structure Admitted (notes : List (Note R)) (groups : List (WordGroup R)) (warnings : List String)
    (degraded : Bool) : Prop where
  spoken : Spoken notes groups
  rejected : ∀ h, .heard h ∈ notes → h.rejected = true →
    degraded = true ∧ h.kind.warning ∈ warnings
  mixture : ∀ region, .abandoned region ∈ notes →
    ∃ h, .heard h ∈ notes ∧ h.kind = .mixture ∧ h.interval = region

/-- **Nothing was withheld**, and no separation given up. -/
structure Unreserved (notes : List (Note R)) : Prop where
  heard : ∀ h, .heard h ∈ notes → h.rejected = false
  abandoned : ∀ region, .abandoned region ∉ notes

theorem unreserved_nil : Unreserved (R := R) [] :=
  ⟨fun _ h => absurd h List.not_mem_nil, fun _ => List.not_mem_nil⟩

section Admitted

variable {notes more : List (Note R)} {groups groups' : List (WordGroup R)}
  {warnings warnings' : List String} {degraded degraded' : Bool}

theorem Unreserved.append (h : Unreserved notes) (h' : Unreserved more) :
    Unreserved (notes ++ more) where
  heard x hx := (List.mem_append.mp hx).elim (h.heard x) (h'.heard x)
  abandoned region hregion :=
    (List.mem_append.mp hregion).elim (h.abandoned region) (h'.abandoned region)

theorem admitted_nil (warnings : List String) (degraded : Bool) :
    Admitted (R := R) [] [] warnings degraded :=
  ⟨spoken_nil _, fun _ h => absurd h List.not_mem_nil, fun _ h => absurd h List.not_mem_nil⟩

/-- Where nothing was withheld there is nothing to admit. -/
theorem Unreserved.admitted (h : Unreserved notes) (hspoken : Spoken notes groups) :
    Admitted notes groups warnings degraded where
  spoken := hspoken
  rejected x hx hrejected := by
    rw [h.heard x hx] at hrejected
    cases hrejected
  mixture region hregion := absurd hregion (h.abandoned region)

/-- More warnings do no harm. -/
theorem Admitted.widen (h : Admitted notes groups warnings degraded) (hw : warnings ⊆ warnings')
    (hd : degraded = true → degraded' = true) : Admitted notes groups warnings' degraded' where
  spoken := h.spoken
  rejected x hx hrejected := (h.rejected x hx hrejected).imp (hd ·) (hw ·)
  mixture := h.mixture

/-- Two parts of a run, one after the other. -/
theorem Admitted.append (h : Admitted notes groups warnings degraded)
    (h' : Admitted more groups' warnings' degraded') :
    Admitted (notes ++ more) (groups ++ groups') (warnings ++ warnings')
      (degraded || degraded') where
  spoken := h.spoken.append h'.spoken
  rejected x hx hrejected := by
    rcases List.mem_append.mp hx with hx | hx
    · obtain ⟨hd, hw⟩ := h.rejected x hx hrejected
      exact ⟨by rw [hd]; rfl, List.mem_append_left _ hw⟩
    · obtain ⟨hd, hw⟩ := h'.rejected x hx hrejected
      exact ⟨by rw [hd, Bool.or_true], List.mem_append_right _ hw⟩
  mixture region hregion := by
    rcases List.mem_append.mp hregion with hregion | hregion
    · obtain ⟨x, hx, hmixture⟩ := h.mixture region hregion
      exact ⟨x, List.mem_append_left _ hx, hmixture⟩
    · obtain ⟨x, hx, hmixture⟩ := h'.mixture region hregion
      exact ⟨x, List.mem_append_right _ hx, hmixture⟩

/-- A part of the run before which nothing was withheld. -/
theorem Admitted.after (h : Admitted more groups warnings degraded) (hnotes : Unreserved notes) :
    Admitted (notes ++ more) groups warnings degraded :=
  (show Admitted notes [] [] false from hnotes.admitted (spoken_nil notes)).append h

/-- The parts of a loop. -/
theorem admitted_flatten {results : List (List (WordGroup R) × List String × Bool)}
    {turns : List (List (Note R))}
    (h : List.Forall₂ (fun r notes => Admitted notes r.1 r.2.1 r.2.2) results turns) :
    Admitted turns.flatten (results.flatMap (fun r => r.1)) (results.flatMap (fun r => r.2.1))
      (results.any (fun r => r.2.2)) := by
  induction h with
  | nil => exact admitted_nil _ _
  | cons hone _ ih => exact hone.append ih

/-- A hearing that was not rejected. -/
theorem unreserved_heard {h : Hearing R} (hh : h.rejected = false) : Unreserved [.heard h] where
  heard x hx := by
    cases List.mem_singleton.mp hx
    exact hh
  abandoned region hregion := by cases List.mem_singleton.mp hregion

/-- That an attempt failed withholds nothing. -/
theorem unreserved_failed (region : TimeInterval) : Unreserved (R := R) [.failed region] where
  heard x hx := by cases List.mem_singleton.mp hx
  abandoned region' hregion := by cases List.mem_singleton.mp hregion

/-- One that was. -/
theorem admitted_rejected (h : Hearing R) : Admitted [.heard h] [] [h.kind.warning] true where
  spoken := spoken_nil _
  rejected x hx _ := by
    cases List.mem_singleton.mp hx
    exact ⟨rfl, List.mem_singleton_self _⟩
  mixture region hregion := by cases List.mem_singleton.mp hregion

end Admitted

/-! ## What the sources of a region come to -/

/-- **What the sources of a region have come to**, from one crop result to another:
nothing is given up yet, no warning is lost, the groups are those of hearings that
were believed, and if a hearing was rejected this is the end of it. -/
structure Emits (notes : List (Note R)) (result result' : OfflinePipeline.CropResult R)
    (credible : Bool) : Prop where
  abandoned : ∀ region, .abandoned region ∉ notes
  warnings : result.warnings ⊆ result'.warnings
  rejected : ∀ h, .heard h ∈ notes → h.rejected = true →
    credible = false ∧ h.kind.warning ∈ result'.warnings
  groups : credible = true →
    ∃ added, result'.groups = result.groups ++ added ∧ Spoken notes added

section Emits

variable {notes more : List (Note R)} {result result' result'' : OfflinePipeline.CropResult R}
  {credible : Bool}

theorem Unreserved.emits (h : Unreserved notes) {added : List (WordGroup R)}
    (hgroups : result'.groups = result.groups ++ added) (hspoken : Spoken notes added)
    (hwarnings : result.warnings ⊆ result'.warnings) : Emits notes result result' true where
  abandoned := h.abandoned
  warnings := hwarnings
  rejected x hx hrejected := by
    rw [h.heard x hx] at hrejected
    cases hrejected
  groups _ := ⟨added, hgroups, hspoken⟩

theorem Emits.unreserved (h : Emits notes result result' true) : Unreserved notes where
  heard x hx := by
    by_contra hrejected
    have hcredible := (h.rejected x hx ((Bool.not_eq_false _).mp hrejected)).1
    cases hcredible
  abandoned := h.abandoned

/-- One source after another. -/
theorem Emits.append (h : Emits notes result result' true)
    (h' : Emits more result' result'' credible) : Emits
    (notes ++ more) result result'' credible where
  abandoned region hregion :=
    (List.mem_append.mp hregion).elim (h.abandoned region) (h'.abandoned region)
  warnings := List.Subset.trans h.warnings h'.warnings
  rejected x hx hrejected := by
    rcases List.mem_append.mp hx with hx | hx
    · rw [h.unreserved.heard x hx] at hrejected
      cases hrejected
    · exact h'.rejected x hx hrejected
  groups hcredible := by
    obtain ⟨added, hadded, hspoken⟩ := h.groups rfl
    obtain ⟨added', hadded', hspoken'⟩ := h'.groups hcredible
    exact ⟨added ++ added', by rw [hadded', hadded, List.append_assoc], hspoken.append hspoken'⟩

end Emits

/-! ## What is given up -/

/-- **The separation of a region has been given up**, and its mixture not heard
yet: what was rejected has left its warning. -/
structure GivenUp (notes : List (Note R)) (region : TimeInterval) (warnings : List String) :
    Prop where
  rejected : ∀ h, .heard h ∈ notes → h.rejected = true → h.kind.warning ∈ warnings
  abandoned : ∀ region', .abandoned region' ∈ notes → region' = region

/-- **The mixture of a region has been heard**: one hearing, whose words are in the
groups or whose warning is among the warnings. -/
structure HeardAsMixture (notes : List (Note R)) (region : TimeInterval)
    (groups : List (WordGroup R))
    (warnings warnings' : List String) : Prop where
  heard : ∃ h, notes = [.heard h] ∧ h.kind = .mixture ∧ h.interval = region
  warnings : warnings ⊆ warnings'
  admitted : Admitted notes groups warnings' true

section GivenUp

variable {notes more : List (Note R)} {region : TimeInterval} {groups : List (WordGroup R)}
  {warnings warnings' : List String}

theorem givenUp_nil (region : TimeInterval) (warnings : List String) :
    GivenUp (R := R) [] region warnings :=
  ⟨fun _ h => absurd h List.not_mem_nil, fun _ h => absurd h List.not_mem_nil⟩

/-- Giving up is written down. -/
theorem GivenUp.concat (h : GivenUp notes region warnings) :
    GivenUp (notes ++ [.abandoned region]) region warnings where
  rejected x hx := by
    rcases List.mem_append.mp hx with hx | hx
    · exact h.rejected x hx
    · cases List.mem_singleton.mp hx
  abandoned region' hregion := by
    rcases List.mem_append.mp hregion with hregion | hregion
    · exact h.abandoned region' hregion
    · cases List.mem_singleton.mp hregion
      rfl

theorem Unreserved.givenUp (h : Unreserved notes) (region : TimeInterval) (warnings : List String) :
    GivenUp notes region warnings where
  rejected x hx hrejected := by
    rw [h.heard x hx] at hrejected
    cases hrejected
  abandoned region' hregion := absurd hregion (h.abandoned region')

theorem Emits.givenUp {result result' : OfflinePipeline.CropResult R} {credible : Bool}
    (h : Emits notes result result' credible) (region : TimeInterval) :
    GivenUp notes region result'.warnings where
  rejected x hx hrejected := (h.rejected x hx hrejected).2
  abandoned region' hregion := absurd hregion (h.abandoned region')

/-- **A region that is given up and heard as a mixture** admits what it withheld. -/
theorem GivenUp.append (h : GivenUp notes region warnings)
    (h' : HeardAsMixture more region groups warnings warnings') :
    Admitted (notes ++ more) groups warnings' true where
  spoken := (spoken_nil notes).append h'.admitted.spoken
  rejected x hx hrejected := by
    rcases List.mem_append.mp hx with hx | hx
    · exact ⟨rfl, h'.warnings (h.rejected x hx hrejected)⟩
    · exact h'.admitted.rejected x hx hrejected
  mixture region' hregion := by
    obtain ⟨x, rfl, hmixture, hinterval⟩ := h'.heard
    refine ⟨x, List.mem_append_right _ (List.mem_singleton_self _), hmixture, hinterval.trans ?_⟩
    rcases List.mem_append.mp hregion with hregion | hregion
    · exact (h.abandoned region' hregion).symm
    · cases List.mem_singleton.mp hregion

end GivenUp

/-! ## What is believed -/

theorem rejected_of_nil {h : Hearing R} (hwords : h.words = []) : h.rejected = false := by
  simp [Hearing.rejected, hwords]

theorem rejected_of_credible {h : Hearing R} (hp : isPlausibleTranscript h.words h.speech = true) :
    h.rejected = false := by
  simp [Hearing.rejected, hp]

theorem believed_of_credible {h : Hearing R} (hwords : h.words ≠ [])
    (hp : isPlausibleTranscript h.words h.speech = true) : h.believed = true := by
  simp [Hearing.believed, hp, hwords]

/-! ## Errors of the separator -/

/-- Any error but that of a separator. -/
def NotSeparationFailed (e : PyError) : Prop := e.isClass .separationFailed = false

section Adapters

variable {V : Type} [Field R] [LinearOrder R] [AddCommGroup V] [Module R V] [EmbeddingSpace R V]

/-- **The detector leaves `SeparationFailedError` to the separator**, and so does
the recogniser, asked about anything but a separated source. -/
structure PipelineAdapters.LeaveItToSeparator (adapters : PipelineAdapters R V S) : Prop where
  vad : ∀ place buffer, Fails NotSeparationFailed (adapters.vad place buffer)
  transcribe : ∀ place buffer language,
    Fails NotSeparationFailed (adapters.transcribe place buffer language none)

theorem PipelineAdapters.LeaveItToSeparator.at {adapters : PipelineAdapters R V S}
    (h : adapters.LeaveItToSeparator) (n : ℕ) : (adapters.at n).LeaveItToSeparator :=
  ⟨fun place => h.vad (n :: place), fun place => h.transcribe (n :: place)⟩

/-- Cropping raises no error of a separator. -/
theorem fails_cropMs_separation (buffer : AudioBuffer S) (interval : TimeInterval) :
    Fails NotSeparationFailed (buffer.cropMs interval) := by
  unfold AudioBuffer.cropMs AudioBuffer.new
  dsimp only
  split_ifs
  · exact fails_error rfl
  · exact fails_ok _
  · exact fails_error rfl
  · exact fails_error rfl

end Adapters

/-! ## The stages -/

variable {V : Type} [Field R] [LinearOrder R] [IsStrictOrderedRing R]

namespace WatchedPipeline

variable {t : WatchedPipeline R}

/-- What is made without noting notes nothing. -/
theorem Made.notes_eq {α : Type} {around : Surroundings} {m : Method PyError (WatchedRun R V) α}
    (hm : Made around False m) (u : WatchedRun R V) : (m u).2.notes = u.notes := by
  let Keeps (u v : WatchedRun R V) : Prop := v.notes = u.notes
  have : Std.Refl Keeps := ⟨fun _ => rfl⟩
  have : IsTrans (WatchedRun R V) Keeps := ⟨fun _ _ _ huv hvw => hvw.trans huv⟩
  refine hm.within (R := Keeps) (fun α m hm u => ?_) u
  cases hm with
  | call t ht ctx port reply => rfl
  | onSession m => rfl
  | note h n => cases h

/-- Something noted, and what comes after it. -/
theorem writes_noted {β : Type} {n : Note R} {k : Unit → Method PyError (WatchedRun R V) β}
    {K : β → List (Note R) → Prop} {E : PyError → List (Note R) → Prop}
    (hk : Writes WatchedRun.notes (k ()) (fun b new => K b (n :: new))
      (fun e new => E e (n :: new))) :
    Writes WatchedRun.notes (note n >>= k) K E :=
  writes_note_bind (fun _ => ⟨_, rfl, rfl⟩) hk

/-- A call raises what the adapter does, or that it was cancelled. -/
theorem raises_call {α : Type} {P : PyError → Prop} (ctx : CallContext) (port : Port)
    {reply : Except PyError α} (hreply : Fails P reply)
    (hcancelled : P CallContext.cancelledError) :
    Raises (σ := WatchedRun R V) P (t.call ctx port reply) := by
  refine raises_bind raises_read (fun u => raises_bind (raises_modify _) (fun _ => ?_))
  refine raises_ofExcept (fun e he => ?_)
  refine fails_bind (f := fun _ => reply) ?_ (fun _ => hreply) e he
  unfold CallContext.check
  split
  · exact fails_error hcancelled
  · exact fails_ok ()

/-- What a call returns is what the adapter does. -/
theorem returns_ask {α : Type} (stage : String) (port : Port) (reply : Except PyError α) :
    Returns (fun a => reply = .ok a)
      (t.ask stage port reply : Method PyError (WatchedRun R V) α) := by
  refine returns_bind (returns_of_true _) (fun now _ => returns_bind (returns_of_true _) ?_)
  refine fun u _ => returns_bind (returns_of_true _) (fun _ _ => returns_ofExcept ?_)
  intro a ha
  obtain ⟨_, -, hreply⟩ := except_bind_eq_ok.mp ha
  exact hreply

/-- A sequence that begins by asking an adapter, where the run may raise anything. -/
theorem writes_ask_bind {α β : Type} {stage : String} {port : Port} {reply : Except PyError α}
    {k : α → Method PyError (WatchedRun R V) β} {K : β → List (Note R) → Prop}
    (hk : ∀ a, reply = .ok a → Writes WatchedRun.notes (k a) K fun _ _ => True) :
    Writes WatchedRun.notes (t.ask stage port reply >>= k) K fun _ _ => True := by
  refine writes_bind (writes_silent (Q := fun a new => new = [] ∧ reply = .ok a)
    (made_ask rfl _ _ _).notes_eq (fun s a s' ha => ⟨rfl, returns_ask _ _ _ s a s' ha⟩)
    (fun _ _ _ => trivial)) ?_
  rintro a _ ⟨rfl, ha⟩
  exact hk a ha

variable [AddCommGroup V] [Module R V] [EmbeddingSpace R V]

/-- **Speech of one person.** -/
theorem writes_transcribeSlices (adapters : PipelineAdapters R V S) (mono : AudioBuffer S) (n : ℕ)
    (slices : List TimeInterval) :
    Writes WatchedRun.notes (t.transcribeSlices adapters mono n slices)
      (fun r new => Admitted new r.1 r.2 (!r.2.isEmpty)) (fun _ _ => True) := by
  induction slices generalizing n with
  | nil => exact writes_pure (admitted_nil _ _)
  | cons interval rest ih =>
    unfold WatchedPipeline.transcribeSlices
    split
    · exact ih (n + 1)
    · refine writes_silent_bind (fun _ => rfl) (fun _ _ _ => trivial) (fun crop => ?_)
      refine writes_silent_bind (made_ask rfl _ _ _).notes_eq (fun _ _ _ => trivial) ?_
      intro result
      refine writes_noted (writes_bind (ih (n + 1)) (fun found old hold => ?_))
      -- the rest of the slices admits what it withheld; this one comes first
      set words := wordsOwnedBy result.words interval
      dsimp only
      split
      · next hwords =>
        refine writes_pure ?_
        rw [List.append_nil]
        exact hold.after (unreserved_heard (rejected_of_nil hwords))
      · next hwords =>
        split
        · refine writes_pure ?_
          rw [List.append_nil]
          exact (admitted_rejected ⟨.nonOverlap, interval, words, [interval]⟩).append hold
        · next hp =>
          rw [Bool.not_eq_true, Bool.not_eq_false'] at hp
          refine writes_pure ?_
          rw [List.append_nil]
          have hheard : Admitted [.heard ⟨.nonOverlap, interval, words, [interval]⟩]
              [{ words, interval, rawScores := result.rawScores }] [] false :=
            (unreserved_heard (rejected_of_credible hp)).admitted
              (spoken_single rfl (believed_of_credible hwords hp))
          exact hheard.append hold

/-- **The sources of a window.** -/
theorem writes_emitSources (adapters : PipelineAdapters R V S) (ulids : ℕ → String)
    (window : OfflinePipeline.WindowContext R)
    (sources : List (OfflinePipeline.SeparatedSource R V S × LinkingDecision R))
    (assignedInCrop : List String) (result : OfflinePipeline.CropResult R) :
    Writes WatchedRun.notes (t.emitSources adapters ulids window sources assignedInCrop result)
      (fun r new => Emits new result r.2 r.1) (fun _ new => Unreserved new) := by
  induction sources generalizing assignedInCrop result with
  | nil =>
    exact writes_pure (unreserved_nil.emits (List.append_nil _).symm (spoken_nil _)
      (List.Subset.refl _))
  | cons source rest ih =>
    unfold WatchedPipeline.emitSources
    refine writes_silent_bind (made_ask rfl _ _ _).notes_eq (fun _ _ _ => unreserved_nil) ?_
    intro asr
    refine writes_noted ?_
    set words := wordsOwnedBy asr.words window.owned
    split
    · next hwords =>
      have hheard := unreserved_heard (rejected_of_nil (h := ⟨.separated, window.owned, words,
        source.1.speech⟩) hwords)
      have hsilent : Emits [_] result result true :=
        hheard.emits (List.append_nil _).symm (spoken_nil _) (List.Subset.refl _)
      exact (ih assignedInCrop result).weaken (fun r new hnew => hsilent.append hnew)
        (fun e new hnew => hheard.append hnew)
    · next hwords =>
      split
      · refine writes_pure ⟨?_, List.subset_append_left _ _, ?_,
          fun h => absurd h Bool.false_ne_true⟩
        · intro region hregion
          cases List.mem_singleton.mp hregion
        · intro x hx _
          cases List.mem_singleton.mp hx
          exact ⟨rfl, List.mem_append_right _ (List.mem_singleton_self _)⟩
      · next hp =>
        rw [Bool.not_eq_true, Bool.not_eq_false'] at hp
        have hheard := unreserved_heard (rejected_of_credible (h := ⟨.separated, window.owned,
          words, source.1.speech⟩) hp)
        refine writes_silent_bind (fun _ => rfl) (fun _ _ _ => hheard) ?_
        intro speakerId
        refine writes_silent_bind (fun _ => rfl) (fun _ _ _ => hheard) (fun _ => ?_)
        have hspoken : Spoken [.heard ⟨.separated, window.owned, words, source.1.speech⟩]
            [OfflinePipeline.sourceGroup window words asr source.1.track source.2 speakerId] :=
          spoken_single rfl (believed_of_credible hwords hp)
        exact (ih _ _).weaken
          (fun r new hnew => (hheard.emits rfl hspoken (List.subset_append_left _ _)).append hnew)
          (fun e new hnew => hheard.append hnew)

/-- **The windows of a region.** -/
theorem writes_separateWindows (adapters : PipelineAdapters R V S) (ulids : ℕ → String)
    (c : OfflinePipeline.RegionContext R S) (separator : SpeechSeparator R S) (n : ℕ)
    (windows : List (TimeInterval × TimeInterval)) (previousMapping : PreviousMapping)
    (result : OfflinePipeline.CropResult R) :
    Writes WatchedRun.notes
      (t.separateWindows adapters ulids c separator n windows previousMapping result)
      (fun r new => Emits new result r.2 r.1) (fun _ new => Unreserved new) := by
  induction windows generalizing n previousMapping result with
  | nil =>
    exact writes_pure (unreserved_nil.emits (List.append_nil _).symm (spoken_nil _)
      (List.Subset.refl _))
  | cons window rest ih =>
    unfold WatchedPipeline.separateWindows
    refine writes_silent_bind (made_listenWindow rfl _ _ _ _ _ _).notes_eq
      (fun _ _ _ => unreserved_nil) (fun heard => writes_read_bind (fun u => ?_))
    refine writes_silent_bind (fun _ => rfl) (fun _ _ _ => unreserved_nil) (fun linked => ?_)
    refine writes_bind (writes_emitSources _ _ _ _ _ _) ?_
    intro emitted old hold
    have hflags : Emits [] result { result with warnings := result.warnings ++ heard.1 } true :=
      unreserved_nil.emits (List.append_nil _).symm (spoken_nil _) (List.subset_append_left _ _)
    replace hold : Emits old result emitted.2 emitted.1 := hflags.append hold
    dsimp only
    cases hcredible : emitted.1 with
    | true =>
      rw [hcredible] at hold
      exact (ih _ _ _).weaken (fun r new hnew => hold.append hnew)
        (fun e new hnew => hold.unreserved.append hnew)
    | false =>
      rw [hcredible] at hold
      refine writes_pure ?_
      rw [List.append_nil]
      exact hold

/-- **The mixture of a region** is heard once: its words make a group if they are
believed, and leave a warning if they are rejected. It raises no error of a
separator. -/
theorem writes_mixtureFallback_heard {adapters : PipelineAdapters R V S}
    (h : adapters.LeaveItToSeparator) (mono : AudioBuffer S) (region : OverlapRegion R)
    (decision : RouteDecision R) (warnings : List String) :
    Writes WatchedRun.notes (t.mixtureFallback adapters mono region decision warnings)
      (fun r new => ∃ x : Hearing R, new = [.heard x] ∧ x.kind = .mixture
        ∧ x.interval = region.interval
        ∧ r.1.map WordGroup.words = ([x].filter Hearing.believed).map Hearing.words
        ∧ r.2 = warnings ++ if x.rejected then [x.kind.warning] else [])
      (fun e _ => NotSeparationFailed e) := by
  unfold WatchedPipeline.mixtureFallback
  refine writes_silent_bind (fun _ => rfl) (fun _ _ he => by cases he) (fun now => ?_)
  refine writes_silent_bind (fun _ => rfl) (raises_ofExcept (fails_cropMs_separation _ _)) ?_
  intro crop
  refine writes_silent_bind (made_call rfl _ _ _).notes_eq
    (raises_call _ _ (h.transcribe _ _ _) rfl) (fun result => ?_)
  set words := wordsOwnedBy result.words region.interval
  dsimp only
  split
  · next hwords =>
    refine writes_noted (writes_pure ⟨_, rfl, rfl, rfl, ?_, ?_⟩)
    · simp [Hearing.believed, hwords]
    · simp [Hearing.rejected, hwords]
  · next hwords =>
    refine writes_silent_bind (fun _ => rfl) (fun _ _ he => by cases he) (fun now => ?_)
    refine writes_silent_bind (made_call rfl _ _ _).notes_eq (raises_call _ _ (h.vad _ _) rfl) ?_
    intro speech
    refine writes_noted ?_
    split
    · next hp =>
      rw [Bool.not_eq_true'] at hp
      refine writes_pure ⟨_, rfl, rfl, rfl, ?_, ?_⟩
      · simp [Hearing.believed, hp]
      · simp [Hearing.rejected, hwords, hp, HearingKind.warning]
    · next hp =>
      rw [Bool.not_eq_true, Bool.not_eq_false'] at hp
      refine writes_pure ⟨_, rfl, rfl, rfl, ?_, ?_⟩
      · simp [Hearing.believed, hwords, hp, WatchedPipeline.mixtureGroup, words]
      · simp [Hearing.rejected, hp]

/-- **The mixture of a region** admits what it withheld. -/
theorem writes_mixtureFallback {adapters : PipelineAdapters R V S}
    (h : adapters.LeaveItToSeparator) (mono : AudioBuffer S) (region : OverlapRegion R)
    (decision : RouteDecision R) (warnings : List String) :
    Writes WatchedRun.notes (t.mixtureFallback adapters mono region decision warnings)
      (fun r new => HeardAsMixture new region.interval r.1 warnings r.2)
      (fun e _ => NotSeparationFailed e) := by
  refine (writes_mixtureFallback_heard h mono region decision warnings).weaken ?_ (fun _ _ he => he)
  rintro ⟨groups, warnings'⟩ _ ⟨x, rfl, hkind, hinterval, hwords, rfl⟩
  refine ⟨⟨x, rfl, hkind, hinterval⟩, List.subset_append_left _ _, ?_⟩
  exact
    { spoken := ⟨_, List.filter_sublist, fun _ hx => (List.mem_filter.mp hx).2, hwords⟩
      rejected := fun y hy hrejected => by
        obtain rfl := Note.heard.inj (List.mem_singleton.mp hy)
        rw [if_pos hrejected]
        exact ⟨rfl, List.mem_append_right _ (List.mem_singleton_self _)⟩
      mixture := fun _ hregion => by cases List.mem_singleton.mp hregion }

/-- **An attempt at a region.** If the separator makes it raise, nothing was
withheld before. -/
theorem writes_attempt {adapters : PipelineAdapters R V S} (h : adapters.LeaveItToSeparator)
    (ulids : ℕ → String) (c : OfflinePipeline.RegionContext R S) (separator : SpeechSeparator R S)
    (n : ℕ) (crop : TimeInterval) :
    Writes WatchedRun.notes (t.attempt adapters ulids c separator n crop)
      (fun r new => ∃ x ∈ r, Admitted new x.1 x.2.1 x.2.2)
      (fun e new => e.isClass .separationFailed = true → Unreserved new) := by
  suffices hlink : Writes WatchedRun.notes
      (t.separateAndLink (adapters.at n) ulids c crop (separator.at n))
      (fun r new => Admitted new r.1 r.2.1 r.2.2)
      (fun e new => e.isClass .separationFailed = true → Unreserved new) by
    refine writes_bind hlink (fun r old hold => writes_pure ⟨r, rfl, ?_⟩)
    rw [List.append_nil]
    exact hold
  unfold WatchedPipeline.separateAndLink
  refine writes_silent_bind (fun _ => rfl) (fun _ _ _ _ => unreserved_nil) (fun windows => ?_)
  refine writes_bind ((writes_separateWindows _ _ _ _ _ _ _ _).weaken (fun _ _ hr => hr)
    (fun _ _ he _ => he)) ?_
  intro emitted old hold
  dsimp only
  cases hcredible : emitted.1 with
  | true =>
    rw [hcredible] at hold
    obtain ⟨added, hadded, hspoken⟩ := hold.groups rfl
    refine writes_pure ?_
    rw [List.append_nil, hadded]
    exact hold.unreserved.admitted hspoken
  | false =>
    refine writes_noted (writes_bind ((writes_mixtureFallback (h.at n) _ _ _ _).weaken
      (fun _ _ hr => hr) (fun e new he hfailed => ?_)) (fun r new hnew => writes_pure ?_))
    · rw [he] at hfailed
      cases hfailed
    · rw [List.append_nil, List.append_cons]
      exact ((hold.givenUp c.region.interval).concat).append hnew

/-- **The two attempts at a region.** -/
theorem writes_attemptSeparation {adapters : PipelineAdapters R V S}
    (h : adapters.LeaveItToSeparator) (ulids : ℕ → String) (c : OfflinePipeline.RegionContext R S)
    (separator : SpeechSeparator R S) :
    Writes WatchedRun.notes (t.attemptSeparation adapters ulids c separator)
      (fun r new => (∃ x ∈ r, Admitted new x.1 x.2.1 x.2.2)
        ∨ (r = none ∧ ∀ warnings, GivenUp new c.region.interval warnings))
      (fun _ _ => True) := by
  refine writes_catchIf ((writes_attempt h ulids c separator _ _).weaken
    (fun _ _ hr => .inl hr) (fun _ _ he => he)) ?_ (fun _ _ _ _ => trivial)
  intro e old hold hfailed
  replace hold := (hold hfailed).append (unreserved_failed c.region.interval)
  refine writes_noted (writes_catchIf ((writes_attempt h ulids c separator _ _).weaken
    (fun r new hr => ?_) (fun _ _ he => he)) ?_ (fun _ _ _ _ => trivial))
  · obtain ⟨x, hx, hadmitted⟩ := hr
    rw [List.append_cons]
    exact .inl ⟨x, hx, hadmitted.after hold⟩
  · intro e' new hnew hfailed'
    refine writes_noted (writes_noted (writes_pure (.inr ⟨rfl, fun warnings => ?_⟩)))
    rw [List.append_cons, ← List.append_assoc, List.append_cons]
    exact (((hold.append (hnew hfailed')).append (unreserved_failed _)).givenUp _ warnings).concat

/-- **An overlap region.** If it is not separated it is degraded from the start. -/
theorem writes_handleOverlapRegion {adapters : PipelineAdapters R V S}
    (h : adapters.LeaveItToSeparator) (ulids : ℕ → String) (c : OfflinePipeline.RegionContext R S)
    (hdegraded : c.decision.runsSeparation = false → c.decision.degraded = true) :
    Writes WatchedRun.notes (t.handleOverlapRegion adapters ulids c)
      (fun r new => Admitted new r.1 r.2.1 r.2.2) (fun _ _ => True) := by
  have hmixture : ∀ {old warnings}, GivenUp old c.region.interval warnings →
      Writes WatchedRun.notes (t.mixture adapters c warnings true)
        (fun r new => Admitted (old ++ new) r.1 r.2.1 r.2.2) (fun _ _ => True) := by
    intro old warnings hold
    refine writes_bind ((writes_mixtureFallback h _ _ _ _).weaken (fun _ _ hr => hr)
      (fun _ _ _ => trivial)) (fun r new hnew => writes_pure ?_)
    rw [List.append_nil]
    exact hold.append hnew
  unfold WatchedPipeline.handleOverlapRegion
  split
  · next hmixed =>
    have htrue : (c.decision.degraded || adapters.separator.isNone) = true := by
      rcases Bool.or_eq_true_iff.mp hmixed with hruns | hnone
      · rw [hdegraded ((Bool.not_eq_true' _).mp hruns), Bool.true_or]
      · rw [hnone, Bool.or_true]
    rw [htrue]
    exact hmixture (givenUp_nil _ _)
  · split
    · exact hmixture (givenUp_nil _ _)
    · refine writes_bind (writes_attemptSeparation h ulids c _) (fun r old hold => ?_)
      rcases hold with ⟨x, hx, hadmitted⟩ | ⟨rfl, hgiven⟩
      · cases hx
        refine writes_pure ?_
        rw [List.append_nil]
        exact hadmitted.widen (List.subset_append_right _ _) (fun hd => by rw [hd, Bool.or_true])
      · exact hmixture (hgiven _)

/-- **The word groups of a recording.** -/
theorem writes_wordGroups {models : OfflineModels R V S}
    (h : models.adapters.LeaveItToSeparator) (ulids : ℕ → String) (pinned : Option String)
    (mono : AudioBuffer S) (diarization : DiarizationResult R) (regions : List (OverlapRegion R)) :
    Writes WatchedRun.notes (t.wordGroups models ulids pinned mono diarization regions)
      (fun r new => Admitted new r.1 r.2.1 r.2.2) (fun _ _ => True) := by
  refine writes_silent_bind (made_ask rfl _ _ _).notes_eq (fun _ _ _ => trivial) (fun speech => ?_)
  refine writes_silent_bind (made_resolveSessionLanguage rfl _ _ _ _).notes_eq
    (fun _ _ _ => trivial) (fun decided => ?_)
  refine writes_bind (writes_transcribeSlices _ _ _ _) (fun alone old hold => ?_)
  refine writes_bind (writes_mapEach (fun x _ =>
    writes_handleOverlapRegion (h.at _) ulids _ (degraded_routeOverlap _ _ _))) ?_
  rintro together _ ⟨turns, rfl, hturns⟩
  refine writes_pure ?_
  rw [List.append_nil]
  have halone : Admitted old alone.1 (decided.2 ++ alone.2) (!(decided.2 ++ alone.2).isEmpty) :=
    hold.widen (List.subset_append_right _ _) (fun hd => by simp_all)
  exact halone.append (admitted_flatten hturns)

/-! ## Whole runs -/

/-- What the rest of a run makes of the word groups: it hears nothing, and the words
of the result are theirs. -/
theorem writes_runOn_of_wordGroups (c : RunContext R) {models : OfflineModels R V S}
    {ulids : ℕ → String} {pinned : Option String} {K : OfflineResult R → List (Note R) → Prop}
    (h : ∀ mono diarization osd, t.decodedMono models.decoded = .ok mono →
      models.diarizer mono = .ok diarization → models.overlapDetector mono = .ok osd →
      Writes WatchedRun.notes (t.wordGroups models ulids pinned mono diarization
          (mergeOverlapRegions diarization.overlapRegions osd
            (secondsToMs t.config.overlapDetection.mergeGapSeconds)
            (secondsToMs t.config.overlapDetection.minDurationSeconds)))
        (fun r new => ∀ result : OfflineResult R,
          (result.segments.flatMap (fun seg => seg.words)).Perm
            (r.1.flatMap WordGroup.words) →
          result.warnings = r.2.1.dedup.insertionSort (· ≤ ·) → result.degraded = r.2.2 →
          result.state = (if r.2.2 then .degradedSucceeded else .succeeded) → K result new)
        (fun _ _ => True)) :
    Writes WatchedRun.notes (t.runOn c models ulids pinned) K (fun _ _ => True) := by
  refine writes_ask_bind (fun asset hasset => ?_)
  refine writes_bind (writes_silent (Q := fun mono new => new = []
      ∧ t.decodedMono (.ok asset) = .ok mono) (fun _ => rfl)
    (returns_ofExcept (fun mono hmono => ⟨rfl, hmono⟩)) (fun _ _ _ => trivial)) ?_
  rintro mono _ ⟨rfl, hmono⟩
  rw [← hasset] at hmono
  refine writes_ask_bind (fun diarization hdiarization => writes_ask_bind (fun osd hosd => ?_))
  refine writes_silent_bind (made_buildGlobalSpeakers rfl _ _ _ _ _).notes_eq
    (fun _ _ _ => trivial) (fun _ => ?_)
  refine writes_bind (h mono diarization osd hmono hdiarization hosd) ?_
  intro recognised new hnew
  refine writes_silent_bind (made_resolveSpeakers rfl _).notes_eq (fun _ _ _ => trivial) ?_
  intro _
  refine writes_bind (writes_silent (Q := fun segments more => more = []
      ∧ (segments.flatMap (fun seg => seg.words)).Perm (recognised.1.flatMap WordGroup.words))
    (fun _ => rfl) (returns_zoom (fun s segments s' hfuse =>
      ⟨rfl, words_fuse hfuse⟩)) (fun _ _ _ => trivial)) ?_
  rintro segments _ ⟨rfl, hwords⟩
  refine writes_pure ?_
  rw [List.nil_append, List.append_nil, List.append_nil]
  exact hnew _ (((List.perm_insertionSort _ _).flatMap_right _).trans hwords) rfl rfl rfl

/-- **The result of a run admits what the run withheld.** Its words are those of
hearings that were believed, each once; for a hearing that was rejected it is
degraded, and has the warning of its kind; and a region whose separation was given
up was heard as a mixture. -/
structure Admits (notes : List (Note R)) (result : OfflineResult R) : Prop where
  words : ∃ heard : List (Hearing R), heard.Sublist (hearings notes)
    ∧ (∀ h ∈ heard, h.believed = true)
    ∧ (result.segments.flatMap (fun seg => seg.words)).Perm (heard.flatMap Hearing.words)
  rejected : ∀ h, .heard h ∈ notes → h.rejected = true →
    result.degraded = true ∧ result.state = .degradedSucceeded
      ∧ h.kind.warning ∈ result.warnings
  mixture : ∀ region, .abandoned region ∈ notes →
    ∃ h, .heard h ∈ notes ∧ h.kind = .mixture ∧ h.interval = region

theorem writes_runOn (c : RunContext R) {models : OfflineModels R V S}
    (h : models.adapters.LeaveItToSeparator) (ulids : ℕ → String) (pinned : Option String) :
    Writes WatchedRun.notes (t.runOn c models ulids pinned) (fun result new => Admits new result)
      (fun _ _ => True) := by
  refine writes_runOn_of_wordGroups c (fun mono diarization osd _ _ _ =>
    (writes_wordGroups h ulids pinned mono diarization _).weaken ?_ (fun _ _ _ => trivial))
  intro r new hnew result hwords hwarnings hdegraded hstate
  obtain ⟨heard, hsub, hbelieved, hspoken⟩ := hnew.spoken
  refine ⟨⟨heard, hsub, hbelieved, ?_⟩, fun x hx hrejected => ?_, hnew.mixture⟩
  · have hgroups : r.1.flatMap WordGroup.words = heard.flatMap Hearing.words := by
      rw [List.flatMap_def, List.flatMap_def, hspoken]
    rw [← hgroups]
    exact hwords
  · obtain ⟨htrue, hwarning⟩ := hnew.rejected x hx hrejected
    refine ⟨hdegraded.trans htrue, by rw [hstate, htrue]; rfl, ?_⟩
    rw [hwarnings]
    exact (List.mem_insertionSort _).mpr (List.mem_dedup.mpr hwarning)

/-- **Withheld text is always admitted**, if the recogniser and the detector leave
`SeparationFailedError` to the separator. -/
theorem admits_run (c : RunContext R) {models : OfflineModels R V S}
    (h : models.adapters.LeaveItToSeparator) (ulids : ℕ → String) (pinned : Option String)
    {result : OfflineResult R} (hok : (t.run c models ulids pinned).1 = .ok result) :
    Admits (t.run c models ulids pinned).2.notes result := by
  obtain ⟨new, hnew, hadmits, -⟩ := writes_runOn c h ulids pinned
    ⟨⟨.new c.sessionId t.config c.embeddingModelVersion, 0⟩, [], []⟩
  rw [show (t.run c models ulids pinned).2.notes = new from hnew]
  exact hadmits result hok

/-! ## A region that is separated twice -/

section Example

/-- Two people talk at once, and a word is heard in both sources. In the first
attempt the second source has no speech; `mixture` is what the recognition of the
mixture then comes to. -/
def separatedTwice (mixture : Except PyError (ASRResult ℚ)) : OfflineModels ℚ ℚ Unit where
  decoded := .ok {
    durationMs := 2000
    mono := fortySamples }
  adapters := {
    vad := fun place buffer => .ok (if place = [2, 0, 0, 1, 0] then [] else [buffer.interval])
    transcribe := fun _ _ _ sourceTrack =>
      match sourceTrack with
      | none => mixture
      | some track => .ok (.english [.heard "yes" 100 900 (some track)])
    embed := fun _ _ _ _ _ _ => noVoice
    separator := some {
      backend := "mossformer2"
      separate := fun _ crop _ => .ok (.copies 2 crop) } }
  diarizer _ := .ok (.found [] [firstMs 2000])
  overlapDetector _ := .ok []
  detectLanguage _ := .ok ("en", 1)

/-- A job that nobody cancels. -/
def undisturbed : WatchedPipeline ℚ where
  config := {}
  linearSumAssignment := fun h _ => Fin.castLE h
  around := {
    now := fun _ => 0
    cancelled := fun _ => false
    now_mono := monotone_zero
    cancelled_mono := fun _ _ _ hm => hm }
  stage := "offline_job"
  timeoutSeconds := 60
  startedMonotonic := 0

/-- What the recording comes to. -/
def outcomeOf (mixture : Except PyError (ASRResult ℚ)) :
    Except PyError (OfflineResult ℚ) × WatchedRun ℚ ℚ :=
  undisturbed.run .ofSession (separatedTwice mixture) toString none

/-- The mixture is recognised, and nothing is heard in it. -/
def nothingHeard : ASRResult ℚ := .english []

/-- The region is given up after the first attempt, and its result says so. -/
theorem admits_run_of_mixture :
    ∃ result, (outcomeOf (.ok nothingHeard)).1 = .ok result
      ∧ Admits (outcomeOf (.ok nothingHeard)).2.notes result := by
  have hreturns : (outcomeOf (.ok nothingHeard)).1.isOk = true := by decide +kernel
  rcases hrun : (outcomeOf (.ok nothingHeard)).1 with e | result
  · rw [hrun] at hreturns
    cases hreturns
  · exact ⟨result, rfl, admits_run _
      ⟨fun _ _ => fails_ok _, fun _ _ _ => fails_ok _⟩ toString none hrun⟩

/-- **A retry forgets what was withheld**: the mixture raises the error of a
separator, the region is separated once more, and the result is not degraded. -/
theorem withheld_and_not_admitted :
    ∃ result, (outcomeOf (.error (.sastt .separationFailed "out of memory" []))).1 = .ok result
      ∧ ¬ Admits (outcomeOf (.error (.sastt .separationFailed "out of memory" []))).2.notes
        result := by
  set outcome := outcomeOf (.error (.sastt .separationFailed "out of memory" [])) with houtcome
  have hreturns : (outcome.1.toOption.any fun r => !r.degraded) = true := by decide +kernel
  have hheard : ((hearings outcome.2.notes).any Hearing.rejected) = true := by decide +kernel
  rcases hrun : outcome.1 with e | result
  · rw [hrun] at hreturns
    cases hreturns
  · rw [hrun] at hreturns
    refine ⟨result, rfl, fun hadmits => ?_⟩
    obtain ⟨h, hh, hrejected⟩ := List.any_eq_true.mp hheard
    have hdegraded := (hadmits.rejected h (heard_of_mem_hearings hh) hrejected).1
    have hnot : (!result.degraded) = true := hreturns
    rw [hdegraded] at hnot
    cases hnot

end Example

end WatchedPipeline

end Sastt
