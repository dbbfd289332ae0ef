import Sastt.Application.SessionCalls
import Sastt.Application.StreamingFinal

/-!
# Labels are not ids

A speaker has an id, which stays, and a label, which may change and is what
people read. The labels a session gives are names such as `Speaker 1`, and none
of them looks like an id (`Labelled`). So a revision, which tells a client how
a label has changed, tells it of no id but that of the speaker it is about.
-/

namespace Sastt

open Method

/-- The text is not the id of a speaker. -/
def NoId (text : String) : Prop := ¬ "sess_spk_".toList <+: text.toList

/-- **The change mentions no id** besides that of its speaker. -/
structure LabelChange.Plain (change : LabelChange) : Prop where
  previousLabel : NoId change.previousLabel
  newLabel : NoId change.newLabel
  reason : NoId change.reason

theorem noId_of_head {text : String} {c : Char} {rest : List Char} (h : text.toList = c :: rest)
    (hc : c ≠ 's') : NoId text := by
  rintro ⟨more, hmore⟩
  rw [h] at hmore
  exact hc (List.cons.inj (show 's' :: _ = c :: rest from hmore)).1.symm

theorem noId_speakerLabel (n : ℕ) : NoId (speakerLabel n) := by
  unfold speakerLabel
  exact noId_of_head (String.toList_append ..) (by decide)

theorem noId_temporaryLabel (n : ℕ) : NoId (temporaryLabel n) := by
  unfold temporaryLabel
  exact noId_of_head (String.toList_append ..) (by decide)

theorem noId_unattributed : NoId UNATTRIBUTED_LABEL := noId_of_head rfl (by decide)

/-- A label that is given to a person. -/
theorem noId_of_speaker {text : String} (h : "Speaker ".toList <+: text.toList) : NoId text := by
  obtain ⟨rest, hrest⟩ := h
  exact noId_of_head hrest.symm (by decide)

variable {R V S : Type} [Field R] [LinearOrder R] [IsStrictOrderedRing R]

namespace SessionSpeakerState

/-- **No label is an id**, and none of the changes to publish mentions one. -/
structure Labelled (st : SessionSpeakerState R V) : Prop where
  speakers : ∀ id speaker, st.speakers id = some speaker → NoId speaker.displayLabel
  changes : ∀ change ∈ st.pendingLabelChanges, change.Plain

/-- What a method keeps that labels speakers properly. -/
def KeepsLabels (st st' : SessionSpeakerState R V) : Prop := st.Labelled → st'.Labelled

instance : Std.Refl (KeepsLabels (R := R) (V := V)) := ⟨fun _ => id⟩

instance : IsTrans (SessionSpeakerState R V) KeepsLabels := ⟨fun _ _ _ h h' hst => h' (h hst)⟩

variable {st : SessionSpeakerState R V}

theorem labelled_new (sessionId : String) (config : SasttConfig R) (version : String) :
    (new sessionId config version : SessionSpeakerState R V).Labelled :=
  ⟨nofun, fun _ h => absurd h List.not_mem_nil⟩

theorem Labelled.assign (h : st.Labelled) (id : String)
    {f : SessionSpeaker R V → SessionSpeaker R V}
    (hf : ∀ s, NoId s.displayLabel → NoId (f s).displayLabel) : (st.assign id f).Labelled := by
  refine ⟨fun k speaker hk => ?_, h.changes⟩
  rw [speakers_assign] at hk
  obtain ⟨s, hs, rfl⟩ := Option.map_eq_some_iff.mp hk
  have hlabel := h.speakers k s hs
  split
  · exact hf s hlabel
  · exact hlabel

theorem labels_updateSpeaker (id : String) {f : SessionSpeaker R V → SessionSpeaker R V}
    (hf : ∀ s, (f s).displayLabel = s.displayLabel) : Within KeepsLabels (updateSpeaker id f) :=
  fun _ hst => hst.assign id (fun s hs => by rwa [hf])

theorem labels_modify {f : SessionSpeakerState R V → SessionSpeakerState R V}
    (hspeakers : ∀ st, (f st).speakers = st.speakers)
    (hchanges : ∀ st, (f st).pendingLabelChanges = st.pendingLabelChanges) :
    Within KeepsLabels (modify f : Method PyError _ Unit) := fun st hst =>
  ⟨fun id speaker hs => hst.speakers id speaker (by rwa [modify_apply, hspeakers] at hs),
    fun change hchange => hst.changes change (by rwa [modify_apply, hchanges] at hchange)⟩

theorem labels_transition (id : String) (toState : IdentityState) (reason : String) :
    Within KeepsLabels (transition (R := R) (V := V) id toState reason) := by
  refine within_bind within_read (fun st => ?_)
  split
  · exact within_throw _
  · exact within_bind (within_ofExcept _) (fun _ => labels_updateSpeaker _ (fun _ => rfl))

theorem labels_register {speaker : SessionSpeaker R V} (hlabel : NoId speaker.displayLabel) :
    Within KeepsLabels (register speaker) := by
  refine within_bind within_read (fun st => ?_)
  split
  · exact within_throw _
  · refine within_modify (fun st hst => ⟨fun id s hs => ?_, hst.changes⟩)
    replace hs : Function.update st.speakers speaker.sessionSpeakerId (some speaker) id = some s :=
      hs
    by_cases hid : id = speaker.sessionSpeakerId
    · rw [hid, Function.update_self] at hs
      rw [← Option.some.inj hs]
      exact hlabel
    · rw [Function.update_of_ne hid] at hs
      exact hst.speakers id s hs

theorem labels_createTemporarySpeaker (ulid : String) :
    Within KeepsLabels (createTemporarySpeaker (R := R) (V := V) ulid) :=
  within_createTemporarySpeaker_of (fun _ hst => ⟨hst.speakers, hst.changes⟩)
    (fun n => labels_register (noId_temporaryLabel n))

theorem labels_ensureClusterSpeaker (ulid clusterId : String) :
    Within KeepsLabels (ensureClusterSpeaker (R := R) (V := V) ulid clusterId) := by
  refine within_bind within_read (fun st => ?_)
  split
  · exact within_pure _
  · refine within_bind within_read (fun st => ?_)
    split
    · exact within_throw _
    · exact within_bind (labels_modify (fun _ => rfl) (fun _ => rfl)) (fun _ =>
        within_bind (within_ofExcept _) (fun _ =>
          within_bind (labels_register (noId_speakerLabel _)) (fun _ => within_pure _)))

theorem labels_unattributedSpeaker (ulid : String) :
    Within KeepsLabels (unattributedSpeaker (R := R) (V := V) ulid) := by
  refine within_bind within_read (fun st => ?_)
  split
  · split
    · exact within_pure _
    · exact within_throw _
  · exact within_bind (within_ofExcept _) (fun _ => within_bind (within_ofExcept _) (fun _ =>
      within_bind (labels_register noId_unattributed) (fun _ =>
        within_bind (labels_modify (fun _ => rfl) (fun _ => rfl)) (fun _ => within_pure _))))

theorem labels_addCannotLink (a b : String) :
    Within KeepsLabels (addCannotLink (R := R) (V := V) a b) := by
  refine within_bind within_read (fun st => within_bind (within_ofExcept _) (fun _ =>
    within_bind (within_ofExcept _) (fun _ => ?_)))
  split
  · exact within_pure _
  · exact within_bind (labels_updateSpeaker _ (fun _ => rfl))
      (fun _ => labels_updateSpeaker _ (fun _ => rfl))

/-- Publishing the changes leaves none behind. -/
theorem labels_drainLabelChanges :
    Within KeepsLabels (drainLabelChanges (R := R) (V := V)) := by
  refine within_bind within_read (fun st => within_bind (within_modify (fun st hst => ?_))
    (fun _ => within_pure _))
  exact ⟨hst.speakers, fun _ h => absurd h List.not_mem_nil⟩

section

variable [AddCommGroup V] [Module R V] [EmbeddingSpace R V]

theorem labels_setPrototype (id : String) (embedding : SpeakerEmbedding R V) :
    Within KeepsLabels (setPrototype id embedding) := by
  refine within_bind within_read (fun st => ?_)
  split
  · exact within_throw _
  · split
    · exact within_bind (within_ofExcept _) (fun _ =>
        within_bind (labels_updateSpeaker _ (fun _ => rfl)) (fun _ => within_pure _))
    · exact within_bind (labels_updateSpeaker _ (fun _ => rfl)) (fun _ =>
        within_bind (within_ofExcept _) (fun _ =>
          within_bind (labels_updateSpeaker _ (fun _ => rfl)) (fun _ => within_pure _)))

theorem labels_updatePrototype (id : String) (embedding : SpeakerEmbedding R V) (margin : Option R)
    (passed : Bool) : Within KeepsLabels (updatePrototype id embedding margin passed) := by
  refine within_bind within_read (fun st => within_bind (within_ofExcept _) (fun _ => ?_))
  split
  · exact within_pure _
  · exact labels_setPrototype _ _

theorem labels_bufferProvisionalEmbedding (id : String) (embedding : SpeakerEmbedding R V) :
    Within KeepsLabels (bufferProvisionalEmbedding id embedding) := by
  refine within_bind within_read (fun st => within_bind (within_ofExcept _) (fun _ => ?_))
  split
  · exact within_pure _
  · exact labels_setPrototype _ _

/-- **A plain call labels properly.** -/
theorem Labelled.step (h : st.Labelled) {op : Op R V} (hop : op.Plain) : (st.step op).Labelled := by
  cases op with
  | createTemporarySpeaker ulid => exact labels_createTemporarySpeaker ulid st h
  | ensureClusterSpeaker ulid clusterId => exact labels_ensureClusterSpeaker ulid clusterId st h
  | unattributedSpeaker ulid => exact labels_unattributedSpeaker ulid st h
  | addCannotLink a b => exact labels_addCannotLink a b st h
  | updatePrototype id embedding margin passed =>
    exact labels_updatePrototype id embedding margin passed st h
  | bufferProvisionalEmbedding id embedding =>
    exact labels_bufferProvisionalEmbedding id embedding st h
  | createSessionSpeaker | merge | promoteProvisional | applyVoiceId | finalizeUnresolved
  | drainLabelChanges => exact hop.elim

/-- So do plain calls. -/
theorem Labelled.calls {ulids : ℕ → String} {s t : Session R V}
    (h : s.speakers.Labelled) (hcalls : Session.Calls ulids Op.Plain s t) :
    t.speakers.Labelled := by
  induction hcalls with
  | refl => exact h
  | tail _ hcall ih =>
    cases hcall with
    | draw => exact ih
    | mint op hop _ => exact ih.step hop
    | move op hop _ => exact ih.step hop

end

/-! ## The final pass -/

/-- A speaker that is found has a label. -/
theorem Labelled.get (h : st.Labelled) {id : String} {speaker : SessionSpeaker R V}
    (hget : st.get id = .ok speaker) : NoId speaker.displayLabel := by
  unfold SessionSpeakerState.get at hget
  generalize st.order.length + 1 = n at hget
  induction n generalizing id with
  | zero => cases hget
  | succ n ih =>
    rw [resolve] at hget
    split at hget
    · cases hget
    · next s hs =>
      split at hget
      · cases hget
        exact h.speakers id speaker hs
      · exact ih hget

theorem labelled_of_within {α : Type} {m : Method PyError (SessionSpeakerState R V) α}
    (hm : Within KeepsLabels m) (hst : st.Labelled) : (m st).2.Labelled := hm st hst

/-- A lookup may rely on the label of what it finds. -/
theorem labels_get {α : Type} (h : st.Labelled) {id : String}
    {k : SessionSpeaker R V → Method PyError (SessionSpeakerState R V) α}
    (hk : ∀ speaker, NoId speaker.displayLabel → (k speaker st).2.Labelled) :
    ((ofExcept (st.get id) >>= k) st).2.Labelled := by
  rcases hget : st.get id with e | speaker
  · exact h
  · exact hk speaker (h.get hget)

/-- Writing a label, and recording the change. -/
theorem labels_write {speaker : SessionSpeaker R V} {newLabel reason : String}
    (hprevious : NoId speaker.displayLabel) (hnew : NoId newLabel) (hreason : NoId reason) :
    Within KeepsLabels (do
      updateSpeaker (R := R) (V := V) speaker.sessionSpeakerId
        fun s => { s with displayLabel := newLabel }
      recordLabelChange ⟨speaker.sessionSpeakerId, speaker.displayLabel, newLabel, reason⟩) := by
  refine within_bind (fun st hst => hst.assign _ (fun _ _ => hnew)) (fun _ =>
    within_modify (fun st hst => ⟨hst.speakers, fun change hchange => ?_⟩))
  rcases List.mem_append.mp hchange with hchange | hchange
  · exact hst.changes change hchange
  · rw [List.mem_singleton.mp hchange]
    exact ⟨hprevious, hnew, hreason⟩

/-- Promoting a speaker labels it properly, if it is given a proper label. -/
theorem labels_promoteProvisional (id : String) {reason label : String} (hreason : NoId reason)
    (hlabel : NoId label) :
    Within KeepsLabels (promoteProvisional (R := R) (V := V) id reason (some label)) := by
  intro st hst
  refine labels_get hst (fun speaker hspeaker => ?_)
  split
  · exact hst
  · exact within_bind (labels_transition _ _ _) (fun _ => within_bind
      (within_bind_two (labels_write hspeaker hlabel hreason) (fun _ => within_pure _))
      (fun _ => within_pure _)) st hst

/-- A merged speaker takes over a proper label. -/
theorem labels_merge (a b : String) {reason : String} (hreason : NoId reason) :
    Within KeepsLabels (merge (R := R) (V := V) a b reason) := by
  intro st hst
  refine labels_get hst (fun source hsource => labels_get hst (fun target htarget => ?_))
  refine labelled_of_within (within_bind (within_ofExcept _) (fun _ => ?_)) hst
  split
  · exact within_throw _
  · have htransitions : Within KeepsLabels (mergeTransitions (V := V) source reason) := by
      unfold mergeTransitions
      split
      · exact within_bind (labels_transition _ _ _) (fun _ => labels_transition _ _ _)
      · split
        · exact labels_transition _ _ _
        · exact within_pure _
    exact within_bind htransitions (fun _ =>
      within_bind (labels_updateSpeaker _ (fun _ => rfl)) (fun _ =>
      within_bind (labels_updateSpeaker _ (fun _ => rfl)) (fun _ =>
      within_bind (labels_updateSpeaker _ (fun _ => rfl)) (fun _ =>
      within_bind_two (labels_write hsource htarget hreason) (fun _ => within_pure _)))))

end SessionSpeakerState

namespace StreamingSession

open SessionSpeakerState

section

variable {F : SessionSpeakerState R V → SessionSpeakerState R V → Prop} [Std.Refl F]
  [IsTrans (SessionSpeakerState R V) F]

/-- Reconciling a replaced provisional promotes it, to the label of a person,
or merges it. -/
theorem within_reconcileReplaced {prior : Emitted} {segment : TranscriptSegment R}
    (hpromote : ∀ id label, "Speaker ".toList <+: label.toList →
      Within F (promoteProvisional id "final_pass_reconciliation" (some label)))
    (hmerge : ∀ a b, Within F (merge a b "final_pass_reconciliation")) :
    Within F (reconcileReplaced prior segment) := by
  refine within_bind within_read (fun st => within_bind (within_ofExcept _) (fun speaker => ?_))
  split
  · next hnamed =>
    have hnames := within_bind (hpromote prior.sessionSpeakerId _ hnamed.2)
      (k := fun _ => pure ()) (fun _ => within_pure ())
    split
    · exact hnames
    · refine within_bind (within_ofExcept _) (fun allowed => ?_)
      split
      · exact within_bind (hmerge _ _) (fun _ => within_pure _)
      · exact hnames
  · exact within_pure _

/-- So does the first loop of the pass. -/
theorem within_prepare (emitted : List Emitted) (used : Finset String)
    (segments : List (TranscriptSegment R))
    (hpromote : ∀ id label, "Speaker ".toList <+: label.toList →
      Within F (promoteProvisional id "final_pass_reconciliation" (some label)))
    (hmerge : ∀ a b, Within F (merge a b "final_pass_reconciliation")) :
    Within F (prepare emitted used segments) := by
  induction segments generalizing used with
  | nil => exact within_pure _
  | cons segment segments ih =>
    unfold prepare
    dsimp only
    split
    · refine within_bind ?_ (fun _ => within_bind (ih _) (fun _ => within_pure _))
      unfold replace
      split
      · exact within_reconcileReplaced hpromote hmerge
      · exact within_pure _
    · exact within_bind (ih _) (fun _ => within_pure _)

end

/-- **The first loop of the pass labels properly.** -/
theorem labels_prepare (emitted : List Emitted) (used : Finset String)
    (segments : List (TranscriptSegment R)) :
    Within KeepsLabels (prepare (V := V) emitted used segments) := by
  have hreason : NoId "final_pass_reconciliation" := noId_of_head rfl (by decide)
  exact within_prepare emitted used segments
    (fun id _ hlabel => labels_promoteProvisional id hreason (noId_of_speaker hlabel))
    (fun a b => labels_merge a b hreason)

/-- **It registers nobody.** -/
theorem registers_prepare (emitted : List Emitted) (used : Finset String)
    (segments : List (TranscriptSegment R)) :
    Within (Registers none) (prepare (V := V) emitted used segments) :=
  within_prepare emitted used segments
    (fun id label _ => rosterFrame_registers.toBookFrame.promoteProvisional id _ label)
    (fun a b => rosterFrame_registers.merge a b _)

end StreamingSession

end Sastt
