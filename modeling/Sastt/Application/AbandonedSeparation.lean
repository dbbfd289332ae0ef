import Sastt.Application.LinkMargins
import Sastt.Application.LinkWrites
import Sastt.Application.RegionFrames

/-!
# Separations that are given up

When the separation of a region is given up, none of its word groups is
emitted, and the region is transcribed as a mixture that belongs to nobody.
The session is not put back: a source that was linked before stays linked.

What would have to be put back is read off the state the region was found in.
`heardBefore` goes through the sources in the order they are linked, up to the
one the separation is given up at, as if nothing were written; and
`HeardSource.quiet` says of one of them that linking it writes nothing. The
session is as it was exactly when all of them are quiet
(`roster_untouched_iff`): as long as they are, the run and the reading go the
same way, and the first that is not makes a change that no later write takes
back (`Accrues.ne_of_ne`).
-/

namespace Sastt

open Method

variable {R V S : Type} [Field R] [LinearOrder R] [IsStrictOrderedRing R] [AddCommGroup V]
  [Module R V] [EmbeddingSpace R V]

namespace OfflinePipeline

/-! ## Reading a region without writing -/

/-- **A source with words that is linked**, after those the crop has been
assigned to. -/
structure HeardSource (R V S : Type) [Field R] [LinearOrder R] [AddCommGroup V] [Module R V]
    [EmbeddingSpace R V] where
  source : SeparatedSource R V S
  link : LinkingDecision R
  assignedInCrop : List String

namespace HeardSource

variable (x : HeardSource R V S) (st : SessionSpeakerState R V)

/-- Nobody is created for the source, and its evidence is refused. -/
def identifiedQuietly : Bool :=
  match x.link.sessionSpeakerId, x.source.embedding with
  | none, some embedding =>
    !(st.minimumSpeechMs ≤ embedding.speechDurationMs && st.canAdmitSpeaker)
  | some id, some embedding =>
    match st.get id with
    | .error _ => false
    | .ok speaker =>
      if speaker.state = .provisional then (st.bufferGate speaker embedding).isSome
      else
        (st.updateGate speaker embedding x.link.margin x.source.quality.passedGate).isSome
  | _, none => true

/-- **Linking the source writes nothing**: nor is it news that its speaker is
none of those the crop has been assigned to. -/
def quiet : Bool :=
  x.identifiedQuietly st
    && x.link.sessionSpeakerId.all (fun id => x.assignedInCrop.all (st.knownApart · id))

end HeardSource

variable (p : OfflinePipeline R)

/-- The sources of a window that are linked, and whether all came out
plausible, if nothing is raised. -/
def heardSources (adapters : PipelineAdapters R V S) (owned : TimeInterval) :
    List (SeparatedSource R V S × LinkingDecision R) → List String →
      List (HeardSource R V S) × Except PyError Bool
  | [], _ => ([], .ok true)
  | (source, link) :: rest, assignedInCrop =>
    match adapters.transcribe [source.track] source.asrBuffer p.sessionLanguage
        (some source.track) with
    | .error e => ([], .error e)
    | .ok asr =>
      let words := wordsOwnedBy asr.words owned
      if words = [] then heardSources adapters owned rest assignedInCrop
      else if !isPlausibleTranscript words source.speech then ([], .ok false)
      else
        let later := heardSources adapters owned rest
          (assignedInCrop ++ link.sessionSpeakerId.toList)
        (⟨source, link, assignedInCrop⟩ :: later.1, later.2)

/-- The same, window by window: the links are those the state gives as it
is. -/
def heardWindows (adapters : PipelineAdapters R V S) (c : RegionContext R S)
    (separator : SpeechSeparator R S) (st : SessionSpeakerState R V) :
    ℕ → List (TimeInterval × TimeInterval) → PreviousMapping →
      List (HeardSource R V S) × Except PyError Bool
  | _, [], _ => ([], .ok true)
  | n, (window, owned) :: rest, previousMapping =>
    match p.listenWindow adapters c separator n window owned with
    | .error e => ([], .error e)
    | .ok (_, sources) =>
      match p.linkWindow c st window sources previousMapping with
      | .error e => ([], .error e)
      | .ok (decisions, mapping) =>
        match p.heardSources (adapters.at n) owned (sources.zip decisions) [] with
        | (heard, .ok true) =>
          let later := heardWindows adapters c separator st (n + 1) rest mapping
          (heard ++ later.1, later.2)
        | (heard, outcome) => (heard, outcome)

/-- The sources that are linked on one attempt, and whether it is given up, if
nothing is raised. -/
def heardAttempt (adapters : PipelineAdapters R V S) (c : RegionContext R S)
    (padded : TimeInterval) (separator : SpeechSeparator R S) (st : SessionSpeakerState R V) :
    List (HeardSource R V S) × Except PyError Bool :=
  match splitCrop padded c.region.interval (secondsToMs p.config.separation.maxCropSeconds)
      (secondsToMs p.config.separation.stitchOverlapSeconds) with
  | .error e => ([], .error e)
  | .ok windows =>
    match p.heardWindows adapters c separator st 0 windows [] with
    | (heard, .ok false) =>
      (heard, (p.mixtureFallback adapters c.mono c.region c.decision []).map (fun _ => true))
    | (heard, .ok true) => (heard, .ok false)
    | (heard, .error e) => (heard, .error e)

/-- The separator a region is given to, if it is given to one. -/
def chosenSeparator (adapters : PipelineAdapters R V S) (decision : RouteDecision R) :
    Option (SpeechSeparator R S) :=
  if !decision.runsSeparation || adapters.separator.isNone then none
  else separatorFor adapters decision

/-- **The sources that are linked before a region is given up**, in their
order: those of the first attempt, and if the separator fails on it, those of
the second. -/
def heardBefore (adapters : PipelineAdapters R V S) (c : RegionContext R S)
    (st : SessionSpeakerState R V) : List (HeardSource R V S) :=
  match chosenSeparator adapters c.decision with
  | none => []
  | some separator =>
    match p.heardAttempt (adapters.at 0) c (p.paddedRegion c) (separator.at 0) st with
    | (heard, .error e) =>
      if e.isClass .separationFailed then
        heard ++ (p.heardAttempt (adapters.at 1) c c.region.interval (separator.at 1) st).1
      else heard
    | (heard, .ok _) => heard

/-- Both attempts ended without the words of sources. -/
def givenUp (result : Except PyError (Option (List (WordGroup R) × List String × Bool))) :
    Bool :=
  match result with
  | .ok result => result.all (fun r => r.2.2)
  | .error _ => false

/-- **The region ends in the mixture**: it is given to no separator, a source
came out implausible, or the separator failed on both attempts. -/
def EndsInMixture (adapters : PipelineAdapters R V S) (ulids : ℕ → String)
    (c : RegionContext R S) (s : Session R V) : Prop :=
  ∀ separator ∈ chosenSeparator adapters c.decision,
    givenUp (p.attemptSeparation adapters ulids c separator s).1 = true

instance (adapters : PipelineAdapters R V S) (ulids : ℕ → String) (c : RegionContext R S)
    (s : Session R V) : Decidable (p.EndsInMixture adapters ulids c s) :=
  inferInstanceAs (Decidable (∀ separator ∈ chosenSeparator adapters c.decision, _ = true))

/-! ## What a run of these methods can do -/

/-- The speakers of the session accrue. -/
def SpeakersAccrue : Session R V → Session R V → Prop :=
  InvImage SessionSpeakerState.Accrues Session.speakers

instance : Std.Refl (SpeakersAccrue (R := R) (V := V)) :=
  inferInstanceAs (Std.Refl (InvImage SessionSpeakerState.Accrues Session.speakers))

instance : IsTrans (Session R V) SpeakersAccrue where
  trans s t u h h' :=
    IsTrans.trans (r := SessionSpeakerState.Accrues) s.speakers t.speakers u.speakers h h'

omit [AddCommGroup V] [Module R V] [EmbeddingSpace R V] in
theorem within_onSpeakers_accrue {α : Type} {m : Method PyError (SessionSpeakerState R V) α}
    (h : Within SessionSpeakerState.Accrues m) : Within SpeakersAccrue (Session.onSpeakers m) :=
  within_zoom h (fun _ _ h => h)

/-- Linking sources lets the speakers accrue. -/
theorem sourceFrame_accrue (ulids : ℕ → String) :
    SourceFrame (R := R) (V := V) ulids SpeakersAccrue where
  create := within_bind (fun s => Std.Refl.refl (r := SessionSpeakerState.Accrues) s.speakers)
    (fun ulid => within_onSpeakers_accrue
      (SessionSpeakerState.within_createTemporarySpeaker_accrues ulid))
  mark _ _ := within_onSpeakers_accrue (SessionSpeakerState.within_addCannotLink_accrues _ _)
  learn _ _ _ _ := within_onSpeakers_accrue SessionSpeakerState.within_gatedUpdate_accrues
  buffer _ _ := within_onSpeakers_accrue SessionSpeakerState.within_gatedUpdate_accrues

variable {p : OfflinePipeline R} {adapters : PipelineAdapters R V S} {ulids : ℕ → String}

/-! ## Quiet sources, and the others -/

section Sources

open SessionSpeakerState

/-- **The run departs from the state**: it changes the speakers, or raises
what no second attempt is made for. -/
def Departs {α : Type} (s : Session R V) (run : Except PyError α × Session R V) : Prop :=
  run.2.speakers ≠ s.speakers ∨ ∃ e, run.1 = .error e ∧ NotSeparation e

variable {s : Session R V} {α β : Type}

section

omit [AddCommGroup V] [Module R V] [EmbeddingSpace R V]

/-- **Who has departed stays away**, since the speakers only accrue. -/
theorem Departs.bind {m : Method PyError (Session R V) α}
    {k : α → Method PyError (Session R V) β} (h : Departs s (m s))
    (hm : Within SpeakersAccrue m) (hk : ∀ a, Within SpeakersAccrue (k a)) :
    Departs s ((m >>= k) s) := by
  rcases hms : m s with ⟨e | a, t⟩
  · rw [bind_of_error hms]
    rw [hms] at h
    rcases h with hne | ⟨e', he, hclass⟩
    · exact Or.inl hne
    · cases he
      exact Or.inr ⟨e, rfl, hclass⟩
  · rw [bind_of_ok hms]
    rw [hms] at h
    rcases h with hne | ⟨e', he, -⟩
    · exact Or.inl (Accrues.ne_of_ne (hm.rel hms) (hk a t) hne)
    · cases he

theorem Departs.catchIf {m : Method PyError (Session R V) α}
    {k : PyError → Method PyError (Session R V) α} (h : Departs s (m s))
    (hm : Within SpeakersAccrue m) (hk : ∀ e, Within SpeakersAccrue (k e)) :
    Departs s (m.catchIf (·.isClass .separationFailed) k s) := by
  unfold Method.catchIf
  rcases hms : m s with ⟨e | a, t⟩
  · rw [hms] at h
    dsimp only
    split
    · next hclass =>
      rcases h with hne | ⟨e', he, hclass'⟩
      · exact Or.inl (Accrues.ne_of_ne (hm.rel hms) (hk e t) hne)
      · cases he
        rw [hclass'] at hclass
        cases hclass
    · exact h
  · rw [hms] at h
    exact h

/-- A method that changes the speakers unless it raises. -/
theorem departs_of_raises {m : Method PyError (Session R V) α} (hm : Raises NotSeparation m)
    (hne : ∀ a t, m s = (.ok a, t) → t.speakers ≠ s.speakers) : Departs s (m s) := by
  rcases hms : m s with ⟨e | a, t⟩
  · exact Or.inr ⟨e, rfl, hm s e (by rw [hms])⟩
  · exact Or.inl (hne a t hms)

theorem onSpeakers_of_ok {m : Method PyError (SessionSpeakerState R V) α} {a : α}
    (h : m s.speakers = (.ok a, s.speakers)) : Session.onSpeakers m s = (.ok a, s) := zoom_eq h

/-- A method of the speakers that changes them unless it raises. -/
theorem departs_onSpeakers {m : Method PyError (SessionSpeakerState R V) α}
    (hm : Raises NotSeparation m)
    (hne : ∀ a st, m s.speakers = (.ok a, st) → st ≠ s.speakers) :
    Departs s (Session.onSpeakers m s) := by
  refine departs_of_raises (raises_zoom hm) (fun a t h => ?_)
  rcases hms : m s.speakers with ⟨r, st⟩
  rw [show Session.onSpeakers m s = _ from zoom_eq hms] at h
  cases h
  exact hne a st hms

end

/-- **Nobody is identified by a quiet source.** -/
theorem identifySource_of_quiet {x : HeardSource R V S}
    (hq : x.identifiedQuietly s.speakers = true) :
    identifySource ulids x.source x.link s = (.ok x.link.sessionSpeakerId, s) := by
  unfold HeardSource.identifiedQuietly at hq
  unfold identifySource
  rw [read_bind]
  cases hid : x.link.sessionSpeakerId with
  | none =>
    cases hembedding : x.source.embedding with
    | none => rfl
    | some e =>
      rw [hid, hembedding] at hq
      dsimp only at hq ⊢
      have hrefused : ¬ (s.speakers.minimumSpeechMs ≤ e.speechDurationMs
          ∧ s.speakers.canAdmitSpeaker = true) := by
        rintro ⟨hlong, hadmits⟩
        rw [decide_eq_true hlong, hadmits] at hq
        cases hq
      rw [if_neg hrefused]
      rfl
  | some id =>
    cases hembedding : x.source.embedding with
    | none => rfl
    | some e =>
      rw [hid, hembedding] at hq
      dsimp only at hq ⊢
      cases hget : s.speakers.get id with
      | error err => rw [hget] at hq; cases hq
      | ok speaker =>
        rw [hget] at hq
        dsimp only at hq
        rw [ofExcept_ok_bind]
        split
        · next hprovisional =>
          rw [if_pos hprovisional] at hq
          have hrefused : ∃ u, bufferProvisionalEmbedding id e s.speakers
              = (.ok u, s.speakers) := by
            rw [bufferProvisionalEmbedding_eq]
            exact gatedUpdate_of_refused hget (Option.isSome_iff_ne_none.mp hq)
          obtain ⟨u, hu⟩ := hrefused
          exact bind_of_ok (onSpeakers_of_ok hu)
        · next hprovisional =>
          rw [if_neg hprovisional] at hq
          have hrefused : ∃ u, updatePrototype id e x.link.margin x.source.quality.passedGate
              s.speakers = (.ok u, s.speakers) := by
            rw [updatePrototype_eq]
            exact gatedUpdate_of_refused hget (Option.isSome_iff_ne_none.mp hq)
          obtain ⟨u, hu⟩ := hrefused
          exact bind_of_ok (onSpeakers_of_ok hu)

/-- **Any other source changes the session**, if it is identified at all. -/
theorem departs_identifySource {x : HeardSource R V S}
    (hq : x.identifiedQuietly s.speakers ≠ true) :
    Departs s (identifySource ulids x.source x.link s) := by
  unfold HeardSource.identifiedQuietly at hq
  unfold identifySource
  rw [read_bind]
  cases hid : x.link.sessionSpeakerId with
  | none =>
    cases hembedding : x.source.embedding with
    | none =>
      rw [hid, hembedding] at hq
      exact absurd rfl hq
    | some e =>
      rw [hid, hembedding] at hq
      dsimp only at hq ⊢
      rw [if_pos (by simpa using hq)]
      let drawn : Session R V := { s with drawn := s.drawn + 1 }
      show Departs drawn ((Session.onSpeakers (createTemporarySpeaker (ulids s.drawn))
        >>= fun temporary => _) drawn)
      refine Departs.bind ?_ (within_onSpeakers_accrue
        (within_createTemporarySpeaker_accrues _)) (fun temporary => ?_)
      · exact departs_onSpeakers (notSeparation_createTemporarySpeaker _)
          (fun _ _ hok => createTemporarySpeaker_ne hok)
      · exact within_bind (within_onSpeakers_accrue within_gatedUpdate_accrues)
          (fun _ => within_pure _)
  | some id =>
    cases hembedding : x.source.embedding with
    | none =>
      rw [hid, hembedding] at hq
      exact absurd rfl hq
    | some e =>
      rw [hid, hembedding] at hq
      dsimp only at hq ⊢
      cases hget : s.speakers.get id with
      | error err => exact Or.inr ⟨err, rfl, (notSastt_get _ _ _ hget).notSeparation⟩
      | ok speaker =>
        rw [hget] at hq
        dsimp only at hq
        rw [ofExcept_ok_bind]
        -- an update that its gate lets through
        have hupdate : ∀ {gate}, ¬ (gate s.speakers speaker).isSome = true →
            Departs s ((Session.onSpeakers (gatedUpdate gate id e) >>=
              fun _ => pure (some id)) s) := by
          intro gate hgate
          refine Departs.bind ?_ (within_onSpeakers_accrue within_gatedUpdate_accrues)
            (fun _ => within_pure _)
          refine departs_onSpeakers (notSastt_gatedUpdate.mono (fun _ h => h.notSeparation))
            (fun u st hok => ?_)
          exact gatedUpdate_ne hget (Option.not_isSome_iff_eq_none.mp hgate) hok
        split
        · next hprovisional =>
          rw [if_pos hprovisional] at hq
          exact hupdate hq
        · next hprovisional =>
          rw [if_neg hprovisional] at hq
          exact hupdate hq

omit [AddCommGroup V] [Module R V] [EmbeddingSpace R V] in
/-- The sources of a crop are known to be different people. -/
theorem constrainSource_of_quiet {assignedInCrop : List String}
    {speakerId : Option String}
    (hq : speakerId.all (fun id => assignedInCrop.all (s.speakers.knownApart · id)) = true) :
    constrainSource assignedInCrop speakerId s = (.ok (), s) := by
  cases speakerId with
  | none => rfl
  | some id =>
    have hall : ∀ other ∈ assignedInCrop, s.speakers.knownApart other id = true := by
      simpa using hq
    show Method.forEach assignedInCrop _ s = _
    clear hq
    induction assignedInCrop with
    | nil => rfl
    | cons other rest ih =>
      have hfirst := addCannotLink_of_knownApart (hall other List.mem_cons_self)
      exact (bind_of_ok (onSpeakers_of_ok hfirst)).trans
        (ih (fun o ho => hall o (List.mem_cons_of_mem other ho)))

omit [AddCommGroup V] [Module R V] [EmbeddingSpace R V] in
/-- If they are not, it is noted. -/
theorem departs_constrainSource {assignedInCrop : List String}
    {speakerId : Option String}
    (hq : speakerId.all (fun id => assignedInCrop.all (s.speakers.knownApart · id)) ≠ true) :
    Departs s (constrainSource assignedInCrop speakerId s) := by
  cases speakerId with
  | none => exact absurd rfl hq
  | some id =>
    show Departs s (Method.forEach assignedInCrop _ s)
    induction assignedInCrop with
    | nil => exact absurd rfl hq
    | cons other rest ih =>
      by_cases hfirst : s.speakers.knownApart other id = true
      · rw [Method.forEach, bind_of_ok (onSpeakers_of_ok (addCannotLink_of_knownApart hfirst))]
        refine ih (fun hall => hq ?_)
        simpa [hfirst] using hall
      · refine Departs.bind ?_ (within_onSpeakers_accrue (within_addCannotLink_accrues _ _))
          (fun _ => within_forEach (fun other _ => within_onSpeakers_accrue
            (SessionSpeakerState.within_addCannotLink_accrues _ _)))
        refine departs_onSpeakers ((notSastt_addCannotLink _ _).mono (fun _ h => h.notSeparation))
          (fun u st hok => ?_)
        exact addCannotLink_ne hfirst hok

/-- **As long as the sources of a window are quiet, the run goes the way it
was read**, and leaves the session as it is. -/
theorem emitSources_of_quiet (ulids : ℕ → String) (window : WindowContext R)
    (sources : List (SeparatedSource R V S × LinkingDecision R)) (assignedInCrop : List String)
    (result : CropResult R)
    (hq : ∀ x ∈ (p.heardSources adapters window.owned sources assignedInCrop).1,
      x.quiet s.speakers = true) :
    ∃ r, p.emitSources adapters ulids window sources assignedInCrop result s = (r, s)
      ∧ r.map Prod.fst = (p.heardSources adapters window.owned sources assignedInCrop).2 := by
  induction sources generalizing assignedInCrop result with
  | nil => exact ⟨_, rfl, rfl⟩
  | cons linked rest ih =>
    obtain ⟨source, link⟩ := linked
    unfold heardSources at hq ⊢
    unfold emitSources
    cases hasr : adapters.transcribe [source.track] source.asrBuffer p.sessionLanguage
        (some source.track) with
    | error e => exact ⟨.error e, rfl, rfl⟩
    | ok asr =>
      rw [hasr] at hq
      dsimp only at hq ⊢
      rw [ofExcept_ok_bind]
      by_cases hwords : wordsOwnedBy asr.words window.owned = []
      · rw [if_pos hwords] at hq ⊢
        rw [if_pos hwords]
        exact ih _ _ hq
      · rw [if_neg hwords] at hq ⊢
        rw [if_neg hwords]
        split
        · exact ⟨_, rfl, rfl⟩
        · next hcredible =>
          rw [if_neg hcredible] at hq
          have hfirst := hq _ List.mem_cons_self
          unfold HeardSource.quiet at hfirst
          obtain ⟨hidentified, hconstrained⟩ := Bool.and_eq_true_iff.mp hfirst
          rw [bind_of_ok (identifySource_of_quiet hidentified),
            bind_of_ok (constrainSource_of_quiet hconstrained)]
          exact ih _ _ (fun x hx => hq x (List.mem_cons_of_mem _ hx))

/-- **The first source that is not quiet makes the run depart.** -/
theorem departs_emitSources (window : WindowContext R)
    (sources : List (SeparatedSource R V S × LinkingDecision R)) (assignedInCrop : List String)
    (result : CropResult R)
    (hq : ∃ x ∈ (p.heardSources adapters window.owned sources assignedInCrop).1,
      x.quiet s.speakers ≠ true) :
    Departs s (p.emitSources adapters ulids window sources assignedInCrop result s) := by
  induction sources generalizing assignedInCrop result with
  | nil =>
    obtain ⟨x, hx, -⟩ := hq
    cases hx
  | cons linked rest ih =>
    obtain ⟨source, link⟩ := linked
    obtain ⟨x, hx, hloud⟩ := hq
    unfold heardSources at hx
    unfold emitSources
    cases hasr : adapters.transcribe [source.track] source.asrBuffer p.sessionLanguage
        (some source.track) with
    | error e =>
      rw [hasr] at hx
      cases hx
    | ok asr =>
      rw [hasr] at hx
      dsimp only at hx ⊢
      rw [ofExcept_ok_bind]
      by_cases hwords : wordsOwnedBy asr.words window.owned = []
      · rw [if_pos hwords] at hx ⊢
        exact ih _ _ ⟨x, hx, hloud⟩
      · rw [if_neg hwords] at hx ⊢
        split
        · next hcredible =>
          rw [if_pos hcredible] at hx
          cases hx
        · next hcredible =>
          rw [if_neg hcredible] at hx
          let first : HeardSource R V S := ⟨source, link, assignedInCrop⟩
          have hrest : ∀ speakerId, Within SpeakersAccrue (constrainSource (R := R) (V := V)
              assignedInCrop speakerId >>= fun _ => p.emitSources adapters ulids window rest
                (assignedInCrop ++ speakerId.toList) {
                  groups := result.groups ++ [sourceGroup window
                    (wordsOwnedBy asr.words window.owned) asr source.track link speakerId]
                  warnings := result.warnings
                    ++ (if speakerId.isNone then ["unidentified_source"] else []) }) :=
            fun speakerId => within_bind ((sourceFrame_accrue ulids).constrainSource _ _)
              (fun _ => (sourceFrame_accrue ulids).emitSources _ _ _ _)
          by_cases hidentified : first.identifiedQuietly s.speakers = true
          · rw [bind_of_ok (identifySource_of_quiet (x := first) hidentified)]
            by_cases hconstrained : link.sessionSpeakerId.all
                (fun id => assignedInCrop.all (s.speakers.knownApart · id)) = true
            · rw [bind_of_ok (constrainSource_of_quiet hconstrained)]
              rcases List.mem_cons.mp hx with rfl | hx
              · exact absurd (Bool.and_eq_true_iff.mpr ⟨hidentified, hconstrained⟩) hloud
              · exact ih _ _ ⟨x, hx, hloud⟩
            · exact (departs_constrainSource hconstrained).bind
                ((sourceFrame_accrue ulids).constrainSource _ _)
                (fun _ => (sourceFrame_accrue ulids).emitSources _ _ _ _)
          · exact (departs_identifySource (x := first) hidentified).bind
              ((sourceFrame_accrue ulids).identifySource _ _) hrest

/-- **The windows of a region**: as long as the sources are quiet, every window
is linked against the state the region was found in. -/
theorem separateWindows_of_quiet (ulids : ℕ → String) (c : RegionContext R S)
    (separator : SpeechSeparator R S) (n : ℕ) (windows : List (TimeInterval × TimeInterval))
    (previousMapping : PreviousMapping) (result : CropResult R)
    (hq : ∀ x ∈ (p.heardWindows adapters c separator s.speakers n windows previousMapping).1,
      x.quiet s.speakers = true) :
    ∃ r, p.separateWindows adapters ulids c separator n windows previousMapping result s = (r, s)
      ∧ r.map Prod.fst
        = (p.heardWindows adapters c separator s.speakers n windows previousMapping).2 := by
  induction windows generalizing n previousMapping result with
  | nil => exact ⟨_, rfl, rfl⟩
  | cons crop rest ih =>
    obtain ⟨window, owned⟩ := crop
    unfold heardWindows at hq ⊢
    unfold separateWindows
    cases hlisten : p.listenWindow adapters c separator n window owned with
    | error e => exact ⟨.error e, rfl, rfl⟩
    | ok listened =>
      obtain ⟨flags, sources⟩ := listened
      rw [hlisten] at hq
      dsimp only at hq ⊢
      rw [ofExcept_ok_bind, read_bind]
      cases hlink : p.linkWindow c s.speakers window sources previousMapping with
      | error e => exact ⟨.error e, rfl, rfl⟩
      | ok linked =>
        obtain ⟨decisions, mapping⟩ := linked
        rw [hlink] at hq
        dsimp only at hq ⊢
        rw [ofExcept_ok_bind]
        let shown : WindowContext R :=
          { region := c.region, owned, decision := c.decision, backend := separator.backend, flags }
        rcases hheard : p.heardSources (adapters.at n) owned (sources.zip decisions) []
          with ⟨heard, outcome⟩
        have hsources : ∀ x ∈ heard, x.quiet s.speakers = true := by
          rw [hheard] at hq
          rcases outcome with e | credible
          · exact hq
          · cases credible
            · exact hq
            · exact fun x hx => hq x (List.mem_append_left _ hx)
        obtain ⟨r, hrun, hr⟩ := emitSources_of_quiet ulids (p := p) shown
            (sources.zip decisions) []
          { result with warnings := result.warnings ++ flags } (by rwa [hheard])
        rw [hheard] at hr hq
        rcases r with e | ⟨credible, emitted⟩
        · cases hr
          exact ⟨.error e, bind_of_error hrun, rfl⟩
        · cases hr
          rw [bind_of_ok hrun]
          cases credible
          · exact ⟨_, rfl, rfl⟩
          · exact ih _ _ _ (fun x hx => hq x (List.mem_append_right _ hx))

theorem departs_separateWindows (c : RegionContext R S)
    (separator : SpeechSeparator R S) (n : ℕ) (windows : List (TimeInterval × TimeInterval))
    (previousMapping : PreviousMapping) (result : CropResult R)
    (hq : ∃ x ∈ (p.heardWindows adapters c separator s.speakers n windows previousMapping).1,
      x.quiet s.speakers ≠ true) :
    Departs s
      (p.separateWindows adapters ulids c separator n windows previousMapping result s) := by
  induction windows generalizing n previousMapping result with
  | nil =>
    obtain ⟨x, hx, -⟩ := hq
    cases hx
  | cons crop rest ih =>
    obtain ⟨window, owned⟩ := crop
    obtain ⟨x, hx, hloud⟩ := hq
    unfold heardWindows at hx
    unfold separateWindows
    cases hlisten : p.listenWindow adapters c separator n window owned with
    | error e =>
      rw [hlisten] at hx
      cases hx
    | ok listened =>
      obtain ⟨flags, sources⟩ := listened
      rw [hlisten] at hx
      dsimp only at hx ⊢
      rw [ofExcept_ok_bind, read_bind]
      cases hlink : p.linkWindow c s.speakers window sources previousMapping with
      | error e =>
        rw [hlink] at hx
        cases hx
      | ok linked =>
        obtain ⟨decisions, mapping⟩ := linked
        rw [hlink] at hx
        dsimp only at hx ⊢
        rw [ofExcept_ok_bind]
        let shown : WindowContext R :=
          { region := c.region, owned, decision := c.decision, backend := separator.backend, flags }
        have hrest : ∀ emitted : Bool × CropResult R, Within SpeakersAccrue
            (if emitted.1 then
              p.separateWindows adapters ulids c separator (n + 1) rest mapping emitted.2
            else return (false, emitted.2)) := by
          intro emitted
          split
          · exact (sourceFrame_accrue ulids).separateWindows _ _ _ _ _ _
          · exact within_pure _
        by_cases hsources : ∃ x ∈ (p.heardSources (adapters.at n) owned
            (sources.zip decisions) []).1, x.quiet s.speakers ≠ true
        · exact (departs_emitSources shown _ _ _ hsources).bind
            ((sourceFrame_accrue ulids).emitSources _ _ _ _) hrest
        · push Not at hsources
          obtain ⟨r, hrun, hr⟩ := emitSources_of_quiet ulids (p := p) shown
            (sources.zip decisions) []
            { result with warnings := result.warnings ++ flags } hsources
          rcases hheard : p.heardSources (adapters.at n) owned (sources.zip decisions) []
            with ⟨heard, outcome⟩
          rw [hheard] at hr hx hsources
          rcases r with e | ⟨credible, emitted⟩
          · cases hr
            exact absurd (hsources x hx) hloud
          · cases hr
            rw [bind_of_ok hrun]
            cases credible
            · exact absurd (hsources x hx) hloud
            · rcases List.mem_append.mp hx with hx | hx
              · exact absurd (hsources x hx) hloud
              · exact ih _ _ _ ⟨x, hx, hloud⟩

/-! ## The attempts at a region -/

/-- Whether the mixture can be recognised has nothing to do with the
warnings. -/
theorem mixtureFallback_warnings (p : OfflinePipeline R) (adapters : PipelineAdapters R V S)
    (mono : AudioBuffer S) (region : OverlapRegion R) (decision : RouteDecision R)
    (warnings warnings' : List String) (b : Bool) :
    (p.mixtureFallback adapters mono region decision warnings).map (fun _ => b)
      = (p.mixtureFallback adapters mono region decision warnings').map (fun _ => b) := by
  unfold mixtureFallback
  cases mono.cropMs region.interval with
  | error e => rfl
  | ok crop =>
    dsimp only [bind, Except.bind]
    cases adapters.transcribe [] crop p.sessionLanguage none with
    | error e => rfl
    | ok result =>
      dsimp only
      by_cases hwords : wordsOwnedBy result.words region.interval = []
      · rw [if_pos hwords, if_pos hwords]
        rfl
      · rw [if_neg hwords, if_neg hwords]
        cases adapters.vad [] crop with
        | error e => rfl
        | ok speech =>
          dsimp only
          split <;> rfl

theorem separateAndLink_of_quiet (ulids : ℕ → String) (c : RegionContext R S)
    (padded : TimeInterval) (separator : SpeechSeparator R S)
    (hq : ∀ x ∈ (p.heardAttempt adapters c padded separator s.speakers).1,
      x.quiet s.speakers = true) :
    ∃ r, p.separateAndLink adapters ulids c padded separator s = (r, s)
      ∧ r.map (fun groups => groups.2.2)
        = (p.heardAttempt adapters c padded separator s.speakers).2 := by
  unfold heardAttempt at hq ⊢
  unfold separateAndLink
  cases hsplit : splitCrop padded c.region.interval
      (secondsToMs p.config.separation.maxCropSeconds)
      (secondsToMs p.config.separation.stitchOverlapSeconds) with
  | error e => exact ⟨.error e, rfl, rfl⟩
  | ok windows =>
    rw [hsplit] at hq
    dsimp only at hq ⊢
    rw [ofExcept_ok_bind]
    rcases hheard : p.heardWindows adapters c separator s.speakers 0 windows []
      with ⟨heard, outcome⟩
    have hwindows : ∀ x ∈ heard, x.quiet s.speakers = true := by
      rw [hheard] at hq
      rcases outcome with e | credible
      · exact hq
      · cases credible <;> exact hq
    obtain ⟨r, hrun, hr⟩ := separateWindows_of_quiet ulids (p := p) c separator 0 windows
      [] {} (by rwa [hheard])
    rw [hheard] at hr
    rcases r with e | ⟨credible, separated⟩
    · cases hr
      exact ⟨.error e, bind_of_error hrun, rfl⟩
    · cases hr
      rw [bind_of_ok hrun]
      cases credible
      · have hmixture := mixtureFallback_warnings p adapters c.mono c.region c.decision
          separated.warnings [] true
        dsimp only
        rw [← hmixture]
        cases p.mixtureFallback adapters c.mono c.region c.decision separated.warnings with
        | error e => exact ⟨.error e, rfl, rfl⟩
        | ok mixture => exact ⟨_, rfl, rfl⟩
      · exact ⟨_, rfl, rfl⟩

theorem departs_separateAndLink (c : RegionContext R S)
    (padded : TimeInterval) (separator : SpeechSeparator R S)
    (hq : ∃ x ∈ (p.heardAttempt adapters c padded separator s.speakers).1,
      x.quiet s.speakers ≠ true) :
    Departs s (p.separateAndLink adapters ulids c padded separator s) := by
  obtain ⟨x, hx, hloud⟩ := hq
  unfold heardAttempt at hx
  unfold separateAndLink
  cases hsplit : splitCrop padded c.region.interval
      (secondsToMs p.config.separation.maxCropSeconds)
      (secondsToMs p.config.separation.stitchOverlapSeconds) with
  | error e =>
    rw [hsplit] at hx
    cases hx
  | ok windows =>
    rw [hsplit] at hx
    dsimp only at hx
    rw [ofExcept_ok_bind]
    have hwindows : x ∈ (p.heardWindows adapters c separator s.speakers 0 windows []).1 := by
      rcases hheard : p.heardWindows adapters c separator s.speakers 0 windows []
        with ⟨heard, e | credible⟩
      · rw [hheard] at hx
        exact hx
      · rw [hheard] at hx
        cases credible <;> exact hx
    refine (departs_separateWindows c separator 0 windows [] {} ⟨x, hwindows, hloud⟩).bind
      ((sourceFrame_accrue ulids).separateWindows _ _ _ _ _ _) (fun separated => ?_)
    dsimp only
    split
    · exact within_pure _
    · exact within_bind (within_ofExcept _) (fun _ => within_pure _)

/-- What a quiet attempt comes to. -/
theorem attempt_of_quiet (ulids : ℕ → String) (c : RegionContext R S)
    (separator : SpeechSeparator R S) (n : ℕ) (crop : TimeInterval)
    (hq : ∀ x ∈ (p.heardAttempt (adapters.at n) c crop (separator.at n) s.speakers).1,
      x.quiet s.speakers = true) :
    ∃ r, p.attempt adapters ulids c separator n crop s = (r, s)
      ∧ ∀ e, r = .error e
        ↔ (p.heardAttempt (adapters.at n) c crop (separator.at n) s.speakers).2 = .error e := by
  obtain ⟨r, hrun, hr⟩ := separateAndLink_of_quiet ulids c crop (separator.at n) hq
  rw [← hr]
  cases r with
  | error e => exact ⟨.error e, bind_of_error hrun, fun e' => by simp [Except.map]⟩
  | ok groups => exact ⟨.ok (some groups), bind_of_ok hrun, fun e' => by simp [Except.map]⟩

theorem departs_attempt (c : RegionContext R S)
    (separator : SpeechSeparator R S) (n : ℕ) (crop : TimeInterval)
    (hq : ∃ x ∈ (p.heardAttempt (adapters.at n) c crop (separator.at n) s.speakers).1,
      x.quiet s.speakers ≠ true) :
    Departs s (p.attempt adapters ulids c separator n crop s) :=
  (departs_separateAndLink c crop (separator.at n) hq).bind
    ((sourceFrame_accrue ulids).separateAndLink _ _ _) (fun _ => within_pure _)

/-- **Two attempts at a region whose sources are all quiet leave the session
as it is.** -/
theorem attemptSeparation_of_quiet (c : RegionContext R S)
    {separator : SpeechSeparator R S} (hchosen : chosenSeparator adapters c.decision = separator)
    (hq : ∀ x ∈ p.heardBefore adapters c s.speakers, x.quiet s.speakers = true) :
    (p.attemptSeparation adapters ulids c separator s).2 = s := by
  unfold heardBefore at hq
  rw [hchosen] at hq
  dsimp only at hq
  unfold attemptSeparation catchIf
  have hfirst : ∀ x ∈ (p.heardAttempt (adapters.at 0) c (p.paddedRegion c) (separator.at 0)
      s.speakers).1, x.quiet s.speakers = true := by
    intro x hx
    refine hq x ?_
    split
    · next heard e hheard =>
      rw [hheard] at hx
      split
      · exact List.mem_append_left _ hx
      · exact hx
    · next heard b hheard =>
      rw [hheard] at hx
      exact hx
  obtain ⟨r, hrun, hr⟩ := attempt_of_quiet ulids c separator 0 _ hfirst
  rw [hrun]
  cases r with
  | ok groups => rfl
  | error e =>
    dsimp only
    split
    · next hclass =>
      have hsecond : ∀ x ∈ (p.heardAttempt (adapters.at 1) c c.region.interval (separator.at 1)
          s.speakers).1, x.quiet s.speakers = true := by
        intro x hx
        refine hq x ?_
        rcases hheard : p.heardAttempt (adapters.at 0) c (p.paddedRegion c) (separator.at 0)
          s.speakers with ⟨heard, outcome⟩
        have houtcome : outcome = .error e := by
          have := (hr e).mp rfl
          rwa [hheard] at this
        subst houtcome
        dsimp only
        rw [if_pos hclass]
        exact List.mem_append_right _ hx
      obtain ⟨r', hrun', -⟩ := attempt_of_quiet ulids c separator 1 _ hsecond
      rw [hrun']
      cases r' with
      | ok groups => rfl
      | error e' =>
        dsimp only
        split <;> rfl
    · rfl

/-- **If one of them is not, the two attempts depart.** -/
theorem departs_attemptSeparation (ulids : ℕ → String) (c : RegionContext R S)
    {separator : SpeechSeparator R S} (hchosen : chosenSeparator adapters c.decision = separator)
    (hq : ∃ x ∈ p.heardBefore adapters c s.speakers, x.quiet s.speakers ≠ true) :
    Departs s (p.attemptSeparation adapters ulids c separator s) := by
  have hretry : ∀ e : PyError, Within SpeakersAccrue
      ((p.attempt adapters ulids c separator 1 c.region.interval).catchIf
        (·.isClass .separationFailed) fun _ => return none) :=
    fun _ => within_catchIf ((sourceFrame_accrue ulids).attempt _ _ _ _)
      (fun _ => within_pure none)
  by_cases hfirst : ∃ x ∈ (p.heardAttempt (adapters.at 0) c (p.paddedRegion c) (separator.at 0)
      s.speakers).1, x.quiet s.speakers ≠ true
  · exact (departs_attempt c separator 0 _ hfirst).catchIf
      ((sourceFrame_accrue ulids).attempt _ _ _ _) hretry
  · push Not at hfirst
    obtain ⟨r, hrun, hr⟩ := attempt_of_quiet ulids c separator 0 _ hfirst
    obtain ⟨x, hx, hloud⟩ := hq
    unfold heardBefore at hx
    rw [hchosen] at hx
    dsimp only at hx
    rcases hheard : p.heardAttempt (adapters.at 0) c (p.paddedRegion c) (separator.at 0)
      s.speakers with ⟨heard, outcome⟩
    rw [hheard] at hx hfirst hr
    cases outcome with
    | ok b => exact absurd (hfirst x hx) hloud
    | error e =>
      dsimp only at hx
      have hr' : r = .error e := (hr e).mpr rfl
      subst hr'
      split at hx
      · next hclass =>
        -- the separator failed quietly, and the loud source is of the second attempt
        unfold attemptSeparation
        rw [Method.catchIf, hrun]
        dsimp only
        rw [if_pos hclass]
        rcases List.mem_append.mp hx with hx | hx
        · exact absurd (hfirst x hx) hloud
        · exact (departs_attempt c separator 1 _ ⟨x, hx, hloud⟩).catchIf
            ((sourceFrame_accrue ulids).attempt _ _ _ _) (fun _ => within_pure none)
      · exact absurd (hfirst x hx) hloud

/-- **What is left of a region that ends in the mixture.** The speakers of the
session are what they were exactly when every source that was linked before
the region was given up is quiet. -/
theorem roster_untouched_iff (c : RegionContext R S)
    (hends : p.EndsInMixture adapters ulids c s) :
    (p.handleOverlapRegion adapters ulids c s).2.speakers = s.speakers
      ↔ ∀ x ∈ p.heardBefore adapters c s.speakers, x.quiet s.speakers = true := by
  have hmixture : ∀ (warnings : List String) (degraded : Bool) (t : Session R V),
      ((Method.ofExcept (p.mixtureFallback adapters c.mono c.region c.decision warnings)
        >>= fun mixture : List (WordGroup R) × List String =>
          (return (mixture.1, mixture.2, degraded) : Method PyError (Session R V) _)) t).2 = t :=
    fun warnings degraded t => by
      rw [bind_pure_snd (fun mixture : List (WordGroup R) × List String =>
        (mixture.1, mixture.2, degraded)) t]
      rfl
  cases hchosen : chosenSeparator adapters c.decision with
  | none =>
    have hnobody : p.heardBefore adapters c s.speakers = [] := by
      unfold heardBefore
      rw [hchosen]
    have hsame : (p.handleOverlapRegion adapters ulids c s).2 = s := by
      unfold handleOverlapRegion
      unfold chosenSeparator at hchosen
      dsimp only
      split
      · exact hmixture _ _ _
      · next hruns =>
        rw [if_neg hruns] at hchosen
        rw [hchosen]
        exact hmixture _ _ _
    rw [hnobody, hsame]
    simp
  | some separator =>
    have hleft : (p.handleOverlapRegion adapters ulids c s).2
        = (p.attemptSeparation adapters ulids c separator s).2 := by
      unfold handleOverlapRegion
      unfold chosenSeparator at hchosen
      dsimp only
      split
      · next hruns =>
        rw [if_pos hruns] at hchosen
        cases hchosen
      · next hruns =>
        rw [if_neg hruns] at hchosen
        rw [hchosen]
        dsimp only
        rcases hrun : p.attemptSeparation adapters ulids c separator s with ⟨e | result, t⟩
        · rw [bind_of_error hrun]
        · rw [bind_of_ok hrun]
          cases result with
          | none => exact hmixture _ _ _
          | some result => rfl
    rw [hleft]
    constructor
    · intro hsame
      by_contra hloud
      push Not at hloud
      rcases departs_attemptSeparation ulids c hchosen hloud with hne | ⟨e, he, -⟩
      · exact hne hsame
      · have hgiven := hends separator hchosen
        rw [he] at hgiven
        cases hgiven
    · intro hq
      rw [attemptSeparation_of_quiet c hchosen hq]

end Sources

/-! ## A second source nobody spoke in -/

/-- Somebody talks over somebody else, for all of it. -/
def talkedOver : RegionContext ℚ Unit where
  mono := fortySamples
  region := { interval := firstMs 2000 }
  decision := routeOverlap (estimateSourceCount {} {}) {} {} true
  diarization := none

/-- A separator that returns two sources, a recogniser that hears a word in
both, and a detector that hears no speech in the second. The embedding of the
first comes from `speechMs` milliseconds of speech. -/
def secondSilent (speechMs : ℕ) : PipelineAdapters ℚ ℚ Unit where
  vad place buffer := .ok (if place = [0, 0, 1, 0] then [] else [buffer.interval])
  transcribe _ _ _ sourceTrack := .ok (.english [.heard "yes" 100 900 sourceTrack])
  embed _ _ _ _ _ sourceTrack := .ok ((lineVoice true).slice speechMs .separated sourceTrack)
  separator := some {
    backend := "mossformer2"
    separate := fun _ crop _ => .ok (.copies 2 crop) }

/-- A pipeline whose linking is not calibrated. -/
def uncalibrated : OfflinePipeline ℚ where
  config := {}
  linearSumAssignment := firstColumns

/-- A session nobody has been heard in. -/
def silentSession : Session ℚ ℚ where
  speakers := .new "session" {} "campplus"

/-- A source that is too short to be recognised again is nobody new, and
leaves nothing behind. -/
theorem roster_untouched_of_short :
    (uncalibrated.handleOverlapRegion (secondSilent 1000) toString talkedOver
        silentSession).2.speakers = silentSession.speakers
      ↔ ∀ x ∈ uncalibrated.heardBefore (secondSilent 1000) talkedOver silentSession.speakers,
        x.quiet silentSession.speakers = true :=
  roster_untouched_iff talkedOver (by decide +kernel)

/-- **A temporary speaker outlives the separation it was heard in**: the second
source came out implausible, and the region has no sources any more. -/
theorem temporary_speaker_stays :
    uncalibrated.EndsInMixture (secondSilent 1500) toString talkedOver silentSession
      ∧ (uncalibrated.handleOverlapRegion (secondSilent 1500) toString talkedOver
        silentSession).2.speakers ≠ silentSession.speakers := by
  refine ⟨by decide +kernel, fun h => ?_⟩
  exact absurd (congrArg SessionSpeakerState.temporaryCounter h) (by decide +kernel)

end OfflinePipeline

end Sastt
