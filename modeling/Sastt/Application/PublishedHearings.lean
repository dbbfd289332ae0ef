import Sastt.Application.WithheldText

/-!
# No believed transcript is lost

Each word of a result comes from a hearing that was believed
(`WatchedPipeline.admits_run`). This module is about the other direction: what
was heard and believed is in the result. It cannot all be. A region is separated
twice if the separator raises, and then the transcripts of the first attempt are
dropped; and when a source of a region is not believed, so are the transcripts of
the sources before it, because the mixture is recognised instead.

So the account is kept by regions. `RegionHeard` says what was heard of a region
and which of it is kept: every source that the separator returned for the windows of
the attempt that did not fail (`WindowsHeard`), all of them believed or silent, or the
one hearing of the mixture, if a source was rejected or both attempts failed. With the
slices of one person's speech, what is kept makes up the result
(`WatchedPipeline.published_run`): its words are those of the believed hearings, each
hearing once.
-/

namespace Sastt

open Method WatchedRun

variable {R V S : Type}

/-! ## What is published -/

/-- **The groups are the believed hearings**, in the order they were heard. -/
def PublishedAs (kept : List (Hearing R)) (groups : List (WordGroup R)) : Prop :=
  groups.map WordGroup.words = (kept.filter Hearing.believed).map Hearing.words

theorem published_nil : PublishedAs (R := R) [] [] := rfl

theorem PublishedAs.append {kept more : List (Hearing R)} {groups groups' : List (WordGroup R)}
    (h : PublishedAs kept groups) (h' : PublishedAs more groups') :
    PublishedAs (kept ++ more) (groups ++ groups') := by
  unfold PublishedAs at h h' ⊢
  rw [List.map_append, List.filter_append, List.map_append, h, h']

/-- A hearing that is not believed makes no group. -/
theorem published_silent {h : Hearing R} (hh : h.believed = false) : PublishedAs [h] [] := by
  unfold PublishedAs
  rw [List.filter_cons_of_neg (by rw [hh]; exact Bool.false_ne_true)]
  rfl

/-- A hearing that is believed makes one, with its words. -/
theorem published_single {h : Hearing R} {group : WordGroup R} (hh : h.believed = true)
    (hwords : group.words = h.words) : PublishedAs [h] [group] := by
  unfold PublishedAs
  rw [List.filter_cons_of_pos hh]
  exact congrArg (fun ws => [ws]) hwords

/-- The words of the groups are those of the believed hearings. -/
theorem PublishedAs.words {kept : List (Hearing R)} {groups : List (WordGroup R)}
    (h : PublishedAs kept groups) :
    groups.flatMap WordGroup.words = (kept.filter Hearing.believed).flatMap Hearing.words := by
  rw [List.flatMap_def, List.flatMap_def, h]

theorem believed_of_nil {h : Hearing R} (hwords : h.words = []) : h.believed = false := by
  simp [Hearing.believed, hwords]

theorem believed_of_not_transcript {h : Hearing R}
    (hp : isPlausibleTranscript h.words h.speech = false) : h.believed = false := by
  simp [Hearing.believed, hp]

/-! ## What is heard of a region -/

/-- Hearings of one kind, and nothing else. -/
structure HeardAs (kind : HearingKind) (notes : List (Note R)) (heard : List (Hearing R)) :
    Prop where
  notes : notes = heard.map .heard
  kind : ∀ h ∈ heard, h.kind = kind

/-- **An attempt that the separator made raise**, after it heard sources, none of them
rejected. -/
structure FailedAttempt (region : TimeInterval) (lost : List (Hearing R)) (notes : List (Note R)) :
    Prop where
  notes : notes = lost.map .heard ++ [.failed region]
  kind : ∀ h ∈ lost, h.kind = .separated
  credible : ∀ h ∈ lost, h.rejected = false

section HeardAs

variable {kind : HearingKind} {notes more : List (Note R)} {heard heard' : List (Hearing R)}

theorem heardAs_nil (kind : HearingKind) : HeardAs (R := R) kind [] [] :=
  ⟨rfl, fun _ h => absurd h List.not_mem_nil⟩

theorem heardAs_single (h : Hearing R) : HeardAs h.kind [.heard h] [h] :=
  ⟨rfl, fun x hx => by rw [List.mem_singleton.mp hx]⟩

theorem HeardAs.append (h : HeardAs kind notes heard) (h' : HeardAs kind more heard') :
    HeardAs kind (notes ++ more) (heard ++ heard') where
  notes := by rw [h.notes, h'.notes, List.map_append]
  kind x hx := (List.mem_append.mp hx).elim (h.kind x) (h'.kind x)

theorem HeardAs.rejected (h : HeardAs kind notes heard) (hnotes : Unreserved notes) :
    ∀ x ∈ heard, x.rejected = false := fun x hx =>
  hnotes.heard x (by rw [h.notes]; exact List.mem_map_of_mem hx)

/-- Sources that are heard, none of them rejected, before the attempt fails. -/
theorem HeardAs.failed {region : TimeInterval} (h : HeardAs .separated notes heard)
    (hnotes : Unreserved notes) : FailedAttempt region heard (notes ++ [.failed region]) where
  notes := by rw [h.notes]
  kind := h.kind
  credible := h.rejected hnotes

end HeardAs

/-- **What a loop over sources takes** of what it hears, after what it was given: all groups of
it, or none is published, since a source is rejected. -/
def Taken (result : OfflinePipeline.CropResult R) (r : Bool × OfflinePipeline.CropResult R)
    (heard : List (Hearing R)) : Prop :=
  (r.1 = true → ∃ added, r.2.groups = result.groups ++ added ∧ PublishedAs heard added)
    ∧ (r.1 = false → ∃ h ∈ heard, h.rejected = true)

/-- What comes before is taken, too. -/
theorem Taken.after {result result' : OfflinePipeline.CropResult R}
    {r : Bool × OfflinePipeline.CropResult R} {heard heard' : List (Hearing R)}
    {added : List (WordGroup R)} (h : Taken result' r heard')
    (hgroups : result'.groups = result.groups ++ added) (hadded : PublishedAs heard added) :
    Taken result r (heard ++ heard') := by
  refine ⟨fun hr => ?_, fun hr => ?_⟩
  · obtain ⟨more, hmore, hpublished⟩ := h.1 hr
    exact ⟨added ++ more, by rw [hmore, hgroups, List.append_assoc], hadded.append hpublished⟩
  · obtain ⟨x, hx, hrejected⟩ := h.2 hr
    exact ⟨x, List.mem_append_right heard hx, hrejected⟩

/-- **The windows of an attempt are heard**: the separator is called for each, and the
recognizer for each of the sources it returns. -/
inductive WindowsHeard (c : OfflinePipeline.RegionContext R S) (separator : SpeechSeparator R S) :
    List (TimeInterval × TimeInterval) → List (Hearing R) → Prop
  | nil : WindowsHeard c separator [] []
  | cons {window owned : TimeInterval} {rest : List (TimeInterval × TimeInterval)}
      {heard more : List (Hearing R)} {crop : AudioBuffer S} {place : List ℕ}
      {batch : SeparatedBatch R S} (cut : c.mono.cropMs window = .ok crop)
      (call : separator.separate place crop c.requested = .ok batch)
      (sources : heard.map Hearing.interval = List.replicate batch.sourceCount owned)
      (windows : WindowsHeard c separator rest more) :
      WindowsHeard c separator ((window, owned) :: rest) (heard ++ more)

variable [Field R] [LinearOrder R] [IsStrictOrderedRing R]

/-- **An attempt at a region**, that the separator did not make raise: the sources of all
windows are kept, none of them rejected; or one is, and the mixture is heard instead. -/
inductive RegionTried (config : SasttConfig R) (c : OfflinePipeline.RegionContext R S)
    (separator : SpeechSeparator R S) (crop : TimeInterval) :
    List (Note R) → List (Hearing R) → Prop
  | separated {windows : List (TimeInterval × TimeInterval)} {kept : List (Hearing R)}
      (split : splitCrop crop c.region.interval (secondsToMs config.separation.maxCropSeconds)
        (secondsToMs config.separation.stitchOverlapSeconds) = .ok windows)
      (heard : WindowsHeard c separator windows kept) (kind : ∀ h ∈ kept, h.kind = .separated)
      (credible : ∀ h ∈ kept, h.rejected = false) :
      RegionTried config c separator crop (kept.map .heard) kept
  | givenUp {heard : List (Hearing R)} {h : Hearing R} (sources : ∀ x ∈ heard, x.kind = .separated)
      (rejected : ∃ x ∈ heard, x.rejected = true) (kind : h.kind = .mixture)
      (interval : h.interval = c.region.interval) :
      RegionTried config c separator crop
        (heard.map .heard ++ [.abandoned c.region.interval, .heard h]) [h]

variable [AddCommGroup V] [Module R V] [EmbeddingSpace R V]

/-- The separator a region is given to, unless it is heard as a mixture. -/
def regionSeparator (adapters : PipelineAdapters R V S)
    (c : OfflinePipeline.RegionContext R S) : Option (SpeechSeparator R S) :=
  if !c.decision.runsSeparation || adapters.separator.isNone then none
  else OfflinePipeline.separatorFor adapters c.decision

/-- **A region is heard**, at the first attempt, or at the second, if the first failed. If both
fail, its mixture is heard, and so it is if no separator is for it. Nothing is lost but what was
heard before an attempt failed. -/
inductive RegionHeard (config : SasttConfig R) (adapters : PipelineAdapters R V S)
    (c : OfflinePipeline.RegionContext R S) : List (Note R) → List (Hearing R) → Prop
  | first {separator : SpeechSeparator R S} {notes : List (Note R)} {kept : List (Hearing R)}
      (wired : regionSeparator adapters c = some separator)
      (h : RegionTried config c (separator.at 0) (c.region.interval.pad
        (secondsToMs config.audio.overlapContextSeconds) c.mono.startMs (some c.mono.endMs))
        notes kept) : RegionHeard config adapters c notes kept
  | second {separator : SpeechSeparator R S} {lost kept : List (Hearing R)}
      {before notes : List (Note R)} (wired : regionSeparator adapters c = some separator)
      (failed : FailedAttempt c.region.interval lost before)
      (h : RegionTried config c (separator.at 1) c.region.interval notes kept) :
      RegionHeard config adapters c (before ++ notes) kept
  | failed {lost lost' : List (Hearing R)} {before after : List (Note R)} {h : Hearing R}
      (wired : (regionSeparator adapters c).isSome = true)
      (first : FailedAttempt c.region.interval lost before)
      (second : FailedAttempt c.region.interval lost' after)
      (kind : h.kind = .mixture) (interval : h.interval = c.region.interval) :
      RegionHeard config adapters c
        (before ++ after ++ [.abandoned c.region.interval, .heard h]) [h]
  | mixture {h : Hearing R} (unwired : regionSeparator adapters c = none)
      (kind : h.kind = .mixture) (interval : h.interval = c.region.interval) :
      RegionHeard config adapters c [.heard h] [h]

/-! ## The stages -/

namespace WatchedPipeline

variable {t : WatchedPipeline R}

/-- **Speech of one person**: each slice that is long enough is heard, and what
is believed of it is a group. -/
theorem writes_transcribeSlices_published (adapters : PipelineAdapters R V S)
    (mono : AudioBuffer S) (n : ℕ) (slices : List TimeInterval) :
    Writes WatchedRun.notes (t.transcribeSlices adapters mono n slices)
      (fun r new => ∃ heard, HeardAs .nonOverlap new heard
        ∧ heard.map Hearing.interval = slices.filter (fun i => ¬ i.durationMs < 50)
        ∧ PublishedAs heard r.1)
      (fun _ _ => True) := by
  induction slices generalizing n with
  | nil => exact writes_pure ⟨[], heardAs_nil _, rfl, published_nil⟩
  | cons interval rest ih =>
    unfold WatchedPipeline.transcribeSlices
    split
    · next hshort =>
      rw [List.filter_cons_of_neg (by simpa using hshort)]
      exact ih (n + 1)
    · next hlong =>
      rw [List.filter_cons_of_pos (by simpa using hlong)]
      refine writes_silent_bind (fun _ => rfl) (fun _ _ _ => trivial) (fun crop => ?_)
      refine writes_silent_bind (made_ask rfl _ _ _).notes_eq (fun _ _ _ => trivial) ?_
      intro result
      refine writes_noted (writes_bind (ih (n + 1)) ?_)
      rintro found old ⟨heard, hheard, hslices, hpublished⟩
      set words := wordsOwnedBy result.words interval
      set here : Hearing R := ⟨.nonOverlap, interval, words, [interval]⟩
      -- this slice comes first, whatever is made of it
      have hfirst : ∀ groups, PublishedAs [here] groups →
          ∃ more, HeardAs .nonOverlap (.heard here :: (old ++ [])) more
            ∧ more.map Hearing.interval = interval :: rest.filter (fun i => ¬ i.durationMs < 50)
            ∧ PublishedAs more (groups ++ found.1) := by
        intro groups hgroups
        rw [List.append_nil]
        exact ⟨here :: heard, (heardAs_single here).append hheard,
          congrArg (interval :: ·) hslices, hgroups.append hpublished⟩
      dsimp only
      split
      · next hwords => exact writes_pure (hfirst [] (published_silent (believed_of_nil hwords)))
      · next hwords =>
        split
        · next hp =>
          rw [Bool.not_eq_true'] at hp
          exact writes_pure (hfirst [] (published_silent (believed_of_not_transcript hp)))
        · next hp =>
          rw [Bool.not_eq_true, Bool.not_eq_false'] at hp
          exact writes_pure (hfirst [_] (published_single (believed_of_credible hwords hp) rfl))

/-- **The sources of a window**, as long as they are believed. -/
theorem writes_emitSources_published (adapters : PipelineAdapters R V S) (ulids : ℕ → String)
    (window : OfflinePipeline.WindowContext R)
    (sources : List (OfflinePipeline.SeparatedSource R V S × LinkingDecision R))
    (assignedInCrop : List String) (result : OfflinePipeline.CropResult R) :
    Writes WatchedRun.notes (t.emitSources adapters ulids window sources assignedInCrop result)
      (fun r new => ∃ heard, HeardAs .separated new heard ∧ Taken result r heard
        ∧ (r.1 = true → heard.map Hearing.interval = List.replicate sources.length window.owned))
      (fun _ new => ∃ heard, HeardAs .separated new heard) := by
  induction sources generalizing assignedInCrop result with
  | nil =>
    exact writes_pure ⟨[], heardAs_nil _, ⟨fun _ => ⟨[], (List.append_nil _).symm, published_nil⟩,
      fun h => by cases h⟩, fun _ => rfl⟩
  | cons source rest ih =>
    unfold WatchedPipeline.emitSources
    refine writes_silent_bind (made_ask rfl _ _ _).notes_eq (fun _ _ _ => ⟨[], heardAs_nil _⟩) ?_
    intro asr
    refine writes_noted ?_
    set words := wordsOwnedBy asr.words window.owned
    set here : Hearing R := ⟨.separated, window.owned, words, source.1.speech⟩
    have hone : HeardAs .separated [.heard here] [here] := heardAs_single here
    -- the sources after this one, which made the groups `added`
    have hrest : ∀ {result' : OfflinePipeline.CropResult R} {added : List (WordGroup R)}
        (assigned : List String), result'.groups = result.groups ++ added →
        PublishedAs [here] added →
        Writes WatchedRun.notes (t.emitSources adapters ulids window rest assigned result')
          (fun r new => ∃ heard, HeardAs .separated (.heard here :: new) heard
            ∧ Taken result r heard ∧ (r.1 = true → heard.map Hearing.interval
              = List.replicate (source :: rest).length window.owned))
          (fun _ new => ∃ heard, HeardAs .separated (.heard here :: new) heard) := by
      intro result' added assigned hgroups hpublished
      refine (ih assigned result').weaken ?_ ?_
      · rintro r new ⟨heard, hheard, htaken, hall⟩
        exact ⟨here :: heard, hone.append hheard, htaken.after hgroups hpublished,
          fun hr => congrArg (window.owned :: ·) (hall hr)⟩
      · rintro e new ⟨heard, hheard⟩
        exact ⟨here :: heard, hone.append hheard⟩
    split
    · next hwords =>
      exact hrest _ (List.append_nil _).symm (published_silent (believed_of_nil hwords))
    · next hwords =>
      split
      · next hp =>
        have hrejected : here.rejected = true := by
          rw [Bool.not_eq_true'] at hp
          simp [here, Hearing.rejected, hwords, hp]
        exact writes_pure ⟨[here], hone, ⟨(fun h => by cases h),
          fun _ => ⟨here, List.mem_singleton_self here, hrejected⟩⟩, (fun h => by cases h)⟩
      · next hp =>
        rw [Bool.not_eq_true, Bool.not_eq_false'] at hp
        refine writes_silent_bind (fun _ => rfl) (fun _ _ _ => ⟨[here], hone⟩) ?_
        intro speakerId
        refine writes_silent_bind (fun _ => rfl) (fun _ _ _ => ⟨[here], hone⟩) (fun _ => ?_)
        exact hrest _ rfl (published_single (believed_of_credible hwords hp) rfl)

/-- As many sources come out of a window as the separator returns. -/
theorem returns_listenWindow (adapters : PipelineAdapters R V S)
    (c : OfflinePipeline.RegionContext R S) (separator : SpeechSeparator R S) (n : ℕ)
    (window owned : TimeInterval) :
    Returns (fun r => ∃ crop batch, c.mono.cropMs window = .ok crop
        ∧ separator.separate [n] crop c.requested = .ok batch ∧ r.2.length = batch.sourceCount)
      (t.listenWindow adapters c separator n window owned) := by
  refine returns_bind (returns_ofExcept (fun _ h => h)) (fun crop hcrop => ?_)
  refine returns_bind (returns_ask _ _ _) (fun batch hbatch => ?_)
  refine returns_bind (returns_mapEach (S := fun _ _ => True) (fun _ _ => returns_of_true _)) ?_
  intro sources hsources
  refine returns_pure ⟨crop, batch, hcrop, hbatch, ?_⟩
  rw [← hsources.length_eq, List.length_zipIdx, List.length_zip, batch.quality_length, min_self]
  rfl

/-- Each of them is decided on. -/
theorem length_linkSources {rule : AssignmentRule R}
    {embeddings : List (Option (SpeakerEmbedding R V))} {prototypes : List (SpeakerPrototype R V)}
    {config : SourceLinkingConfig R} {mapping : PreviousMapping} {keys : Option (List String)}
    {constrained : Bool} {result : LinkingResult R embeddings.length prototypes.length}
    (h : linkSources rule embeddings prototypes config mapping keys constrained = .ok result) :
    result.decisions.length = embeddings.length := by
  obtain ⟨base, -, hscores⟩ := except_bind_eq_ok.mp h
  cases hscores
  unfold linkScores
  split_ifs <;> simp

theorem length_linkWindow {c : OfflinePipeline.RegionContext R S} {state : SessionSpeakerState R V}
    {window : TimeInterval} {sources : List (OfflinePipeline.SeparatedSource R V S)}
    {previousMapping : PreviousMapping} {r : List (LinkingDecision R) × PreviousMapping}
    (h : t.linkWindow c state window sources previousMapping = .ok r) :
    r.1.length = sources.length := by
  obtain ⟨result, hresult, h⟩ := except_bind_eq_ok.mp h
  cases h
  exact (length_linkSources hresult).trans (List.length_map _)

/-- **The windows of a region**, as long as their sources are believed. -/
theorem writes_separateWindows_published (adapters : PipelineAdapters R V S) (ulids : ℕ → String)
    (c : OfflinePipeline.RegionContext R S) (separator : SpeechSeparator R S) (n : ℕ)
    (windows : List (TimeInterval × TimeInterval)) (previousMapping : PreviousMapping)
    (result : OfflinePipeline.CropResult R) :
    Writes WatchedRun.notes
      (t.separateWindows adapters ulids c separator n windows previousMapping result)
      (fun r new => ∃ heard, HeardAs .separated new heard ∧ Taken result r heard
        ∧ (r.1 = true → WindowsHeard c separator windows heard))
      (fun _ new => ∃ heard, HeardAs .separated new heard) := by
  induction windows generalizing n previousMapping result with
  | nil =>
    exact writes_pure ⟨[], heardAs_nil _, ⟨fun _ => ⟨[], (List.append_nil _).symm, published_nil⟩,
      fun h => by cases h⟩, fun _ => .nil⟩
  | cons window rest ih =>
    unfold WatchedPipeline.separateWindows
    refine writes_bind (writes_silent (Q := fun r new => new = [] ∧ ∃ crop batch,
        c.mono.cropMs window.1 = .ok crop ∧ separator.separate [n] crop c.requested = .ok batch
          ∧ r.2.length = batch.sourceCount) (made_listenWindow rfl _ _ _ _ _ _).notes_eq
      (fun u r u' hr => ⟨rfl, returns_listenWindow _ _ _ _ _ _ u r u' hr⟩)
      (fun _ _ _ => ⟨[], heardAs_nil _⟩)) ?_
    rintro found _ ⟨rfl, crop, batch, hcrop, hbatch, hfound⟩
    refine writes_read_bind (fun u => writes_bind (writes_silent (Q := fun r new => new = []
        ∧ t.linkWindow c u.session.speakers window.1 found.2 previousMapping = .ok r)
      (fun _ => rfl) (returns_ofExcept (fun r hr => ⟨rfl, hr⟩))
      (fun _ _ _ => ⟨[], heardAs_nil _⟩)) ?_)
    rintro linked _ ⟨rfl, hlinked⟩
    refine writes_bind (writes_emitSources_published _ _ _ _ _ _) ?_
    rintro emitted old ⟨heard, hheard, htaken, hall⟩
    dsimp only
    cases hcredible : emitted.1 with
    | true =>
      obtain ⟨added, hgroups, hpublished⟩ := htaken.1 hcredible
      have hsources := hall hcredible
      rw [List.length_zip, length_linkWindow hlinked, min_self, hfound] at hsources
      refine (ih _ _ _).weaken ?_ ?_
      · rintro r new ⟨heard', hheard', htaken', hall'⟩
        exact ⟨heard ++ heard', hheard.append hheard', htaken'.after hgroups hpublished,
          fun hr => .cons hcrop hbatch hsources (hall' hr)⟩
      · rintro e new ⟨heard', hheard'⟩
        exact ⟨heard ++ heard', hheard.append hheard'⟩
    | false =>
      refine writes_pure ⟨heard, ?_, ⟨(fun h => by cases h), fun _ => htaken.2 hcredible⟩,
        (fun h => by cases h)⟩
      rw [List.append_nil]
      exact hheard

/-- **An attempt at a region** hears it, unless the separator makes it raise; then
nothing but its sources was heard. -/
theorem writes_attempt_published {adapters : PipelineAdapters R V S}
    (h : adapters.LeaveItToSeparator) (ulids : ℕ → String) (c : OfflinePipeline.RegionContext R S)
    (separator : SpeechSeparator R S) (n : ℕ) (crop : TimeInterval) :
    Writes WatchedRun.notes (t.attempt adapters ulids c separator n crop)
      (fun r new => ∃ x ∈ r, ∃ kept, RegionTried t.config c (separator.at n) crop new kept
        ∧ PublishedAs kept x.1)
      (fun e new => e.isClass .separationFailed = true →
        ∃ heard, HeardAs .separated new heard) := by
  suffices hlink : Writes WatchedRun.notes
      (t.separateAndLink (adapters.at n) ulids c crop (separator.at n))
      (fun r new => ∃ kept, RegionTried t.config c (separator.at n) crop new kept
        ∧ PublishedAs kept r.1)
      (fun e new => e.isClass .separationFailed = true →
        ∃ heard, HeardAs .separated new heard) by
    refine writes_bind hlink (fun r old hold => writes_pure ⟨r, rfl, ?_⟩)
    rw [List.append_nil]
    exact hold
  unfold WatchedPipeline.separateAndLink
  refine writes_bind (writes_silent (Q := fun windows new => new = []
      ∧ splitCrop crop c.region.interval (secondsToMs t.config.separation.maxCropSeconds)
        (secondsToMs t.config.separation.stitchOverlapSeconds) = .ok windows) (fun _ => rfl)
    (returns_ofExcept (fun windows hsplit => ⟨rfl, hsplit⟩))
    (fun _ _ _ _ => ⟨[], heardAs_nil _⟩)) ?_
  rintro windows _ ⟨rfl, hsplit⟩
  refine writes_bind (((writes_separateWindows_published _ _ _ _ _ _ _ _).and
    (writes_separateWindows _ _ _ _ _ _ _ _)).weaken (fun _ _ hr => hr)
    (fun _ _ he _ => he.1)) ?_
  rintro emitted old ⟨⟨heard, hheard, htaken, hall⟩, hemits⟩
  dsimp only
  cases hcredible : emitted.1 with
  | true =>
    rw [hcredible] at hemits
    obtain ⟨added, hgroups, hpublished⟩ := htaken.1 hcredible
    refine writes_pure ⟨heard, ?_, ?_⟩
    · rw [List.append_nil, hheard.notes]
      exact .separated hsplit (hall hcredible) hheard.kind (hheard.rejected hemits.unreserved)
    · show PublishedAs heard emitted.2.groups
      rw [hgroups]
      exact hpublished
  | false =>
    refine writes_noted (writes_bind ((writes_mixtureFallback_heard (h.at n) _ _ _ _).weaken
      (fun _ _ hr => hr) (fun e new he hfailed => ?_)) ?_)
    · rw [he] at hfailed
      cases hfailed
    · rintro r _ ⟨x, rfl, hkind, hinterval, hpublished, -⟩
      refine writes_pure ⟨[x], ?_, hpublished⟩
      rw [List.append_nil, hheard.notes]
      exact .givenUp hheard.kind (htaken.2 hcredible) hkind hinterval

/-- **The two attempts at a region.** -/
theorem writes_attemptSeparation_published {adapters : PipelineAdapters R V S}
    (h : adapters.LeaveItToSeparator) (ulids : ℕ → String) (c : OfflinePipeline.RegionContext R S)
    {separator : SpeechSeparator R S} (hwired : regionSeparator adapters c = some separator) :
    Writes WatchedRun.notes (t.attemptSeparation adapters ulids c separator)
      (fun r new =>
        (∃ x ∈ r, ∃ kept, RegionHeard t.config adapters c new kept ∧ PublishedAs kept x.1)
          ∨ (r = none ∧ ∃ lost lost' before after, FailedAttempt c.region.interval lost before
            ∧ FailedAttempt c.region.interval lost' after
            ∧ new = before ++ after ++ [.abandoned c.region.interval]))
      (fun _ _ => True) := by
  have hattempt := fun (n : ℕ) (crop : TimeInterval) =>
    (writes_attempt_published (t := t) h ulids c separator n crop).and
      (writes_attempt h ulids c separator n crop)
  refine writes_catchIf ((hattempt _ _).weaken (fun r new hr => .inl ?_) (fun _ _ he => he)) ?_
    (fun _ _ _ _ => trivial)
  · obtain ⟨⟨x, hx, kept, htried, hpublished⟩, -⟩ := hr
    exact ⟨x, hx, kept, .first hwired htried, hpublished⟩
  rintro e old ⟨hheard, hold⟩ hfailed
  obtain ⟨heard, hheard⟩ := hheard hfailed
  have hlost : FailedAttempt c.region.interval heard (old ++ [.failed c.region.interval]) :=
    hheard.failed (hold hfailed)
  refine writes_noted (writes_catchIf ((hattempt _ _).weaken (fun r new hr => .inl ?_)
    (fun _ _ he => he)) ?_ (fun _ _ _ _ => trivial))
  · obtain ⟨⟨x, hx, kept, htried, hpublished⟩, -⟩ := hr
    rw [List.append_cons]
    exact ⟨x, hx, kept, .second hwired hlost htried, hpublished⟩
  · rintro e' new ⟨hheard', hnew⟩ hfailed'
    obtain ⟨heard', hheard'⟩ := hheard' hfailed'
    refine writes_noted (writes_noted (writes_pure (.inr ⟨rfl, heard, heard', _, _, hlost,
      hheard'.failed (hnew hfailed'), ?_⟩)))
    simp only [List.append_assoc, List.cons_append, List.nil_append]

/-- **An overlap region.** -/
theorem writes_handleOverlapRegion_published {adapters : PipelineAdapters R V S}
    (h : adapters.LeaveItToSeparator) (ulids : ℕ → String)
    (c : OfflinePipeline.RegionContext R S) :
    Writes WatchedRun.notes (t.handleOverlapRegion adapters ulids c)
      (fun r new => ∃ kept, RegionHeard t.config adapters c new kept ∧ PublishedAs kept r.1)
      (fun _ _ => True) := by
  have hmixture : ∀ (old : List (Note R)) (warnings : List String) (degraded : Bool),
      (∀ x : Hearing R, x.kind = .mixture → x.interval = c.region.interval →
        RegionHeard t.config adapters c (old ++ [.heard x]) [x]) →
      Writes WatchedRun.notes (t.mixture adapters c warnings degraded)
        (fun r new => ∃ kept, RegionHeard t.config adapters c (old ++ new) kept
          ∧ PublishedAs kept r.1) (fun _ _ => True) := by
    intro old warnings degraded hregion
    refine writes_bind ((writes_mixtureFallback_heard h _ _ _ _).weaken (fun _ _ hr => hr)
      (fun _ _ _ => trivial)) ?_
    rintro r _ ⟨x, rfl, hkind, hinterval, hpublished, -⟩
    exact writes_pure ⟨[x], hregion x hkind hinterval, hpublished⟩
  unfold WatchedPipeline.handleOverlapRegion
  split
  · next hmixed => exact hmixture [] _ _ (fun _ => .mixture (if_pos hmixed))
  · next hmixed =>
    split
    · next hnone =>
      exact hmixture [] _ _ (fun _ => .mixture ((if_neg hmixed).trans hnone))
    · next separator hsome =>
      have hwired : regionSeparator adapters c = some separator := (if_neg hmixed).trans hsome
      refine writes_bind (writes_attemptSeparation_published h ulids c hwired) ?_
      intro r old hold
      rcases hold with ⟨x, hx, kept, hheard, hpublished⟩
        | ⟨rfl, lost, lost', before, after, hbefore, hafter, rfl⟩
      · cases hx
        refine writes_pure ⟨kept, ?_, hpublished⟩
        rw [List.append_nil]
        exact hheard
      · refine hmixture _ _ _ (fun x hkind hinterval => ?_)
        rw [List.append_assoc]
        exact .failed (by rw [hwired]; rfl) hbefore hafter hkind hinterval

/-! ## Whole runs -/

/-- **A run by its parts**: the speech and the regions, what was heard of the
slices of one person's speech, and of each region what was heard and what of it
is kept. -/
structure HeardParts (R S : Type) where
  mono : AudioBuffer S
  diarization : DiarizationResult R
  speech : List TimeInterval
  regions : List (OverlapRegion R)
  alone : List (Hearing R)
  together : List (List (Note R) × List (Hearing R))

namespace HeardParts

/-- All that is written down of the parts. -/
def notes (parts : HeardParts R S) : List (Note R) :=
  parts.alone.map .heard ++ parts.together.flatMap Prod.fst

/-- All that is kept of them. -/
def kept (parts : HeardParts R S) : List (Hearing R) :=
  parts.alone ++ parts.together.flatMap Prod.snd

/-- The context a region is handled in. -/
def context (parts : HeardParts R S) (config : SasttConfig R) (region : OverlapRegion R) :
    OfflinePipeline.RegionContext R S :=
  let evidence := OfflinePipeline.countingEvidence (some parts.diarization) region.interval
  let decision := routeOverlap (estimateSourceCount evidence config) config evidence true
  { mono := parts.mono, region, decision, diarization := some parts.diarization }

end HeardParts

/-- **The parts are what a run hears**: each slice of the speech outside the
regions is heard once, unless it is shorter than 50 ms, and so is each region. -/
structure HeardWhole (config : SasttConfig R) (adapters : PipelineAdapters R V S)
    (parts : HeardParts R S) : Prop where
  slices : parts.alone.map Hearing.interval
    = (subtractIntervals parts.speech (parts.regions.map OverlapRegion.interval)).filter
      (fun i => ¬ i.durationMs < 50)
  alone : ∀ h ∈ parts.alone, h.kind = .nonOverlap
  together : List.Forall₂ (fun x part => RegionHeard config (adapters.at (x.2 + 2))
    (parts.context config x.1) part.1 part.2) parts.regions.zipIdx parts.together

omit [Field R] [LinearOrder R] [IsStrictOrderedRing R] in
/-- The turns of a loop over the regions, each with what was heard and what is kept of it. -/
theorem exists_regionHeard {α : Type} {xs : List α}
    {K : α → List (Note R) → List (Hearing R) → Prop}
    {turns : List ((List (WordGroup R) × List String × Bool) × List (Note R))}
    (h : List.Forall₂ (fun x turn => ∃ kept, K x turn.2 kept ∧ PublishedAs kept turn.1.1) xs
      turns) :
    ∃ together : List (List (Note R) × List (Hearing R)),
      together.flatMap Prod.fst = turns.flatMap Prod.snd
        ∧ List.Forall₂ (fun x part => K x part.1 part.2) xs together
        ∧ PublishedAs (together.flatMap Prod.snd)
          ((turns.map Prod.fst).flatMap fun r => r.1) := by
  induction h with
  | nil => exact ⟨[], rfl, .nil, published_nil⟩
  | @cons x turn xs turns hone _ ih =>
    obtain ⟨kept, hkept, hpublished⟩ := hone
    obtain ⟨together, hnotes, hparts, hrest⟩ := ih
    refine ⟨(turn.2, kept) :: together, ?_, .cons hkept hparts, hpublished.append hrest⟩
    rw [List.flatMap_cons, List.flatMap_cons, hnotes]

/-- **The word groups of a recording.** -/
theorem writes_wordGroups_published {models : OfflineModels R V S}
    (h : models.adapters.LeaveItToSeparator) (ulids : ℕ → String) (pinned : Option String)
    (mono : AudioBuffer S) (diarization : DiarizationResult R) (regions : List (OverlapRegion R)) :
    Writes WatchedRun.notes (t.wordGroups models ulids pinned mono diarization regions)
      (fun r new => ∃ parts : HeardParts R S, HeardWhole t.config models.adapters parts
        ∧ new = parts.notes ∧ PublishedAs parts.kept r.1
        ∧ models.adapters.vad [] mono = .ok parts.speech
        ∧ parts.mono = mono ∧ parts.diarization = diarization ∧ parts.regions = regions)
      (fun _ _ => True) := by
  refine writes_ask_bind (fun speech hspeech => ?_)
  refine writes_silent_bind (made_resolveSessionLanguage rfl _ _ _ _).notes_eq
    (fun _ _ _ => trivial) (fun decided => ?_)
  refine writes_bind (writes_transcribeSlices_published _ _ _ _) ?_
  rintro alone old ⟨heard, hheard, hslices, hpublished⟩
  refine writes_bind (writes_mapEach_turns (fun x _ =>
    writes_handleOverlapRegion_published (h.at _) ulids _)) ?_
  rintro _ _ ⟨turns, rfl, rfl, hturns⟩
  obtain ⟨together, hnotes, htogether, hrest⟩ := exists_regionHeard hturns
  refine writes_pure ⟨⟨mono, diarization, speech, regions, heard, together⟩,
    ⟨hslices, hheard.kind, htogether⟩, ?_, hpublished.append hrest, hspeech, rfl, rfl, rfl⟩
  rw [List.append_nil, HeardParts.notes, hnotes, hheard.notes]

/-- **The parts of a recording**: the speech is what the detector finds in it, and
the regions are those of the diarizer and of the overlap detector, merged. -/
structure PartsOf (t : WatchedPipeline R) (models : OfflineModels R V S) (parts : HeardParts R S) :
    Prop where
  mono : t.decodedMono models.decoded = .ok parts.mono
  diarization : models.diarizer parts.mono = .ok parts.diarization
  speech : models.adapters.vad [] parts.mono = .ok parts.speech
  regions : ∃ osd, models.overlapDetector parts.mono = .ok osd
    ∧ parts.regions = mergeOverlapRegions parts.diarization.overlapRegions osd
      (secondsToMs t.config.overlapDetection.mergeGapSeconds)
      (secondsToMs t.config.overlapDetection.minDurationSeconds)
  heard : HeardWhole t.config models.adapters parts

/-- **A result publishes what was heard**: its words are those of the hearings
that are kept and believed, each hearing once. -/
structure PublishesParts (parts : HeardParts R S) (notes : List (Note R))
    (result : OfflineResult R) : Prop where
  notes : notes = parts.notes
  words : (result.segments.flatMap (fun seg => seg.words)).Perm
    ((parts.kept.filter Hearing.believed).flatMap Hearing.words)

theorem writes_runOn_published (c : RunContext R) {models : OfflineModels R V S}
    (h : models.adapters.LeaveItToSeparator) (ulids : ℕ → String) (pinned : Option String) :
    Writes WatchedRun.notes (t.runOn c models ulids pinned)
      (fun result new => ∃ parts, PartsOf t models parts ∧ PublishesParts parts new result)
      (fun _ _ => True) := by
  refine writes_runOn_of_wordGroups c (fun mono diarization osd hmono hdiarization hosd =>
    (writes_wordGroups_published h ulids pinned mono diarization _).weaken ?_
      (fun _ _ _ => trivial))
  rintro r new ⟨parts, hparts, hnew, hpublished, hspeech, rfl, rfl, hregions⟩ result hwords - - -
  refine ⟨parts, ⟨hmono, hdiarization, hspeech, ⟨osd, hosd, hregions⟩, hparts⟩, hnew, ?_⟩
  rw [← hpublished.words]
  exact hwords

/-- Two people talk at once, and a word is heard in both sources; but the separator fails at
the first attempt. -/
def separatedAgain : OfflineModels ℚ ℚ Unit :=
  let models := separatedTwice (.ok nothingHeard)
  { models with
    adapters := { models.adapters with
      vad := fun _ buffer => .ok [buffer.interval]
      separator := models.adapters.separator.map (fun separator =>
        { separator with
          separate := fun place crop k =>
            if place = [2, 0, 0] then .error (.sastt .separationFailed "out of memory" [])
            else separator.separate place crop k }) } }

/-- What the recording comes to. -/
def outcomeAgain : Except PyError (OfflineResult ℚ) × WatchedRun ℚ ℚ :=
  undisturbed.run .ofSession separatedAgain toString none

end WatchedPipeline

end Sastt
