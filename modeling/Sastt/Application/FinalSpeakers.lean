import Sastt.Application.ClientTranscript

/-!
# The speakers of the final transcript

A session gives every speaker an id, under which a client may group the lines
it is sent. The final pass works on a session of its own, which mints ids of its
own, and the final segments carry these. The pass goes on to merge and rename
the speakers of the session, but it never tells the client which of them is
which speaker of the final transcript.

So a client can keep its grouping exactly when there is nothing to keep: when
no final segment overlaps a provisional one (`keepsGrouping_iff`).
-/

namespace Sastt

open Method

variable {R V S : Type} [Field R] [LinearOrder R] [IsStrictOrderedRing R]

/-! ## Which finals replace a provisional -/

namespace StreamingSession

variable {supply : Supply} {s s' : StreamingSession R V}
  {told events : List (ServerEvent (EventPayload R))} {picks : List (Option Emitted)}
  {result : OfflineResult R}

omit [IsStrictOrderedRing R] in
/-- Segments with one deduplication key have the same times. -/
theorem interval_eq_of_key {segment segment' : TranscriptSegment R}
    (h : finalDedupKey segment = finalDedupKey segment') :
    segment.interval = segment'.interval := by
  have hlist := congrArg String.toList h
  simp only [finalDedupKey, String.toList_append, List.append_assoc] at hlist
  obtain ⟨hstart, hrest⟩ := append_cons_inj_of_notMem_left
    (show _ ++ ':' :: _ = _ ++ ':' :: _ from hlist) (colon_notMem_toString _)
      (colon_notMem_toString _)
  obtain ⟨hend, -⟩ := append_cons_inj_of_notMem_left
    (show _ ++ ':' :: _ = _ ++ ':' :: _ from hrest) (colon_notMem_toString _)
      (colon_notMem_toString _)
  have hs : segment.startMs = segment'.startMs := toString_nat_inj (String.toList_inj.mp hstart)
  have he : segment.endMs = segment'.endMs := toString_nat_inj (String.toList_inj.mp hend)
  unfold TranscriptSegment.interval
  simp only [hs, he]

/-- If a segment overlaps a provisional, some segment replaces one. -/
theorem exists_first_pick {segments : List (TranscriptSegment R)}
    (hstable : Stable (MayReplace s.emitted) (WouldRather s.emitted) ∅ segments picks)
    (hoverlap : ∃ segment ∈ segments, ∃ p, MayReplace s.emitted segment p) :
    ∃ (j : ℕ) (q : Emitted), picks[j]? = some (some q)
      ∧ ∀ i < j, ∀ q', picks[i]? ≠ some (some q') := by
  have hsome : ∃ (j : ℕ), ∃ q : Emitted, picks[j]? = some (some q) := by
    obtain ⟨segment, hsegment, p, hp⟩ := hoverlap
    obtain ⟨i, hi⟩ := List.mem_iff_getElem?.mp hsegment
    by_contra hnone
    refine hnone ?_
    obtain ⟨j, -, hj⟩ := hstable.unenvied i segment p hi hp (Set.notMem_empty p)
      (fun q hq => absurd ⟨i, q, hq⟩ hnone)
    exact ⟨j, p, hj⟩
  classical
  obtain ⟨q, hq⟩ := Nat.find_spec hsome
  exact ⟨Nat.find hsome, q, hq, fun i hi q' hq' => Nat.find_min hsome hi ⟨q', hq'⟩⟩

omit [IsStrictOrderedRing R] in
/-- The event returned for a segment is that of the segment, or of one before it
with its key. -/
theorem exists_line_of_take {w w' : EventWriter (EventPayload R)} (hw : w.WellFormed supply)
    (hu : Function.Injective supply.ulid) (hunused : ∀ key, w.log.finalByDedupKey key = none)
    {notices : List (EventFields (EventPayload R))} (hnotices : ∀ f ∈ notices, Remark f)
    {prepared : List (TranscriptSegment R × Option String)}
    (hok : EventWriter.writeAll supply (passFields result notices prepared) w = (.ok events, w'))
    {j : ℕ} {p : TranscriptSegment R × Option String} (hp : p ∈ prepared.take j) :
    ∃ e ∈ linesOf events, ∃ p' ∈ prepared.take j, finalDedupKey p'.1 = finalDedupKey p.1
      ∧ FinalOf w.drawn supply p' e := by
  have hcut : passFields result notices prepared
      = (notices ++ (prepared.take j).map (fun p => finalFields result p.1 p.2))
        ++ ((prepared.drop j).map (fun p => finalFields result p.1 p.2)
          ++ warningFields result) := by
    unfold passFields
    rw [List.append_assoc, List.append_assoc, ← List.append_assoc (List.map _ _), ← List.map_append,
      List.take_append_drop]
  have hdraws : ∀ f ∈ notices ++ (prepared.take j).map (fun p => finalFields result p.1 p.2),
      EventWriter.Draws f := fun f hf =>
    draws_passFields hnotices f (hcut ▸ List.mem_append_left _ hf)
  rw [hcut] at hok
  obtain ⟨es, _, rest, hfirst, -, rfl⟩ := mapEach_append_eq_ok hok
  obtain ⟨horigin, -, -⟩ := EventWriter.writeAll_takes hw hu hdraws (fun f hf => hf)
    (le_refl w.drawn) (fun key e he => by
      rw [hunused key] at he
      cases he) hfirst
  have hmem : finalFields result p.1 p.2
      ∈ notices ++ (prepared.take j).map (fun p => finalFields result p.1 p.2) :=
    List.mem_append_right _ (List.mem_map_of_mem hp)
  obtain ⟨e, he, g, hg, hkey, i, hi, htakes⟩ := exists_of_forall₂ horigin.flip hmem
  rcases List.mem_append.mp hg with hg | hg
  · rw [(hnotices g hg).finalKey] at hkey
    cases hkey
  · obtain ⟨p', hp', rfl⟩ := List.mem_map.mp hg
    have hfinal : FinalOf w.drawn supply p' e := finalOf_of_takes hi htakes
    refine ⟨e, List.mem_filter.mpr ⟨List.mem_append_left _ he, ?_⟩, p', hp',
      Option.some.inj hkey, hfinal⟩
    rw [hfinal.eventType]
    rfl

/-- **A final replaces a provisional as soon as a segment overlaps one.** The
first segment that replaces one is not taken for an earlier one with its key,
since that would have had the same choice. -/
theorem PassRun.exists_superseding (hsaid : Said supply told s)
    (hu : Function.Injective supply.ulid)
    (run : PassRun supply s result events s'
      (result.segments.zip (picks.map (Option.map Emitted.eventId))))
    (hstable : Stable (MayReplace s.emitted) (WouldRather s.emitted) ∅ result.segments picks)
    (hoverlap : ∃ segment ∈ result.segments, ∃ p, MayReplace s.emitted segment p) :
    ∃ f ∈ linesOf events, ∃ p ∈ s.emitted, f.supersedesEventId = some p.eventId := by
  obtain ⟨j, q, hq, hfirst⟩ := exists_first_pick hstable hoverlap
  obtain ⟨segment, hsegment⟩ : ∃ segment, result.segments[j]? = some segment := by
    have hj : j < result.segments.length :=
      hstable.length ▸ (List.getElem?_eq_some_iff.mp hq).1
    exact ⟨_, List.getElem?_eq_getElem hj⟩
  have hmay := (hstable.accepted j segment q hsegment hq).1
  have hmem : (segment, some q.eventId)
      ∈ (result.segments.zip (picks.map (Option.map Emitted.eventId))).take (j + 1) := by
    refine List.mem_of_getElem? (i := j) ?_
    rw [List.getElem?_take_of_lt (Nat.lt_succ_self j), List.getElem?_zip_eq_some, List.getElem?_map,
      hq]
    exact ⟨hsegment, rfl⟩
  obtain ⟨f, hf, p', hp', hkey, hfinal⟩ :=
    exists_line_of_take hsaid.wellFormed.writer hu hsaid.unfinished run.remarks run.written hmem
  refine ⟨f, hf, ?_⟩
  obtain ⟨i, hi, hget⟩ := List.mem_take_iff_getElem.mp hp'
  obtain ⟨hsegment', hpick⟩ :=
    List.getElem?_zip_eq_some.mp (List.getElem?_eq_some_iff.mpr ⟨(lt_min_iff.mp hi).2, hget⟩)
  rw [List.getElem?_map] at hpick
  obtain ⟨pick, hpicki, hid⟩ := Option.map_eq_some_iff.mp hpick
  cases pick with
  | some q' =>
    refine ⟨q', (hstable.accepted i _ q' hsegment' hpicki).1.1, ?_⟩
    rw [hfinal.supersedes, ← hid]
    rfl
  | none =>
    -- it may replace what the first one does, and is too early to have lost it
    have hmay' : MayReplace s.emitted p'.1 q := by
      refine ⟨hmay.1, ?_⟩
      rw [interval_eq_of_key hkey]
      exact hmay.2
    obtain ⟨k, hk, htaken⟩ := hstable.unenvied i p'.1 q hsegment' hmay' (Set.notMem_empty q)
      (fun q' hq' => by
        rw [hpicki] at hq'
        cases hq')
    exact absurd htaken (hfirst k (hk.trans_le (Nat.lt_succ_iff.mp (lt_min_iff.mp hi).1)) q)

/-- The revisions of a pass mention no ids. -/
theorem PassRun.labels (hsaid : Said supply told s) (hu : Function.Injective supply.ulid)
    {prepared : List (TranscriptSegment R × Option String)}
    (run : PassRun supply s result events s' prepared) :
    ∀ e ∈ events, ∀ change, e.payload = some (.labelChange change) → change.Plain := by
  obtain ⟨_, s₁, hdrain, -⟩ := hsaid.wellFormed.drainLabelRevisions hu
  have hdrained : run.drained = s₁ := by
    rw [← run.drain, hdrain]
  have hlabelled : run.drained.speakers.Labelled := by
    rw [hdrained]
    exact ((said_drainLabelRevisions (E := fun _ _ => True) hu).ok hsaid hdrain).labelled
  have hreconciled : run.reconciled.Labelled :=
    (labels_prepare s.emitted ∅ result.segments).rel run.prepare hlabelled
  obtain ⟨horigin, -⟩ := EventWriter.writeAll_takes hsaid.wellFormed.writer hu
    (draws_passFields run.remarks) (fun f hf => hf) (le_refl s.drawn) (fun key e he => by
      rw [show s.writer.log.finalByDedupKey key = none from hsaid.unfinished key] at he
      cases he) run.written
  intro e he change hchange
  obtain ⟨_, -, g, hg, -, i, -, htakes⟩ := exists_of_forall₂ horigin he
  rw [htakes.payload] at hchange
  unfold passFields at hg
  rw [List.mem_append, List.mem_append, List.mem_append] at hg
  rcases hg with ((hg | hg) | hg) | hg
  · obtain ⟨change', hmem, rfl⟩ := List.mem_map.mp hg
    cases hchange
    exact hsaid.labelled.changes _ hmem
  · obtain ⟨change', hmem, rfl⟩ := List.mem_map.mp hg
    cases hchange
    exact hreconciled.changes _ hmem
  · obtain ⟨p, -, rfl⟩ := List.mem_map.mp hg
    cases hchange
  · unfold warningFields at hg
    split at hg
    · exact absurd hg List.not_mem_nil
    · rw [List.mem_singleton.mp hg] at hchange
      cases hchange

section Pass

variable {Rel : StreamingSession R V → StreamingSession R V → Prop} [Std.Refl Rel]
  [IsTrans (StreamingSession R V) Rel]

/-- What a final pass keeps: it writes events, and prepares the speakers. -/
theorem within_finalPass
    (hwrite : ∀ fs, Within Rel (onLog (V := V) (EventWriter.writeAll supply fs)))
    (hdrain : Within Rel (onSpeakers (R := R) (V := V) SessionSpeakerState.drainLabelChanges))
    (hprepare : ∀ emitted segments,
      Within Rel (onSpeakers (R := R) (V := V) (prepare emitted ∅ segments)))
    (secondPass : Except PyError (OfflineResult R)) :
    Within Rel (finalPass (V := V) supply secondPass) := by
  have hrevisions : Within Rel (drainLabelRevisions (R := R) (V := V) supply) :=
    within_bind within_read (fun s => within_bind hdrain (fun _ => hwrite _))
  refine within_bind within_read (fun s => ?_)
  split
  · exact within_pure _
  · exact within_bind (within_ofExcept _) (fun result => within_bind hrevisions (fun _ =>
      within_bind (hprepare _ _) (fun _ => within_bind hrevisions (fun _ =>
      within_bind (hwrite _) (fun _ => within_bind (hwrite _) (fun _ => within_pure _))))))

end Pass

/-- **The pass registers nobody.** -/
theorem registers_finalPass (supply : Supply) (secondPass : Except PyError (OfflineResult R)) :
    Within (InvImage (SessionSpeakerState.Registers none) StreamingSession.speakers)
      (finalPass (V := V) supply secondPass) := by
  have hspeakers {α : Type} {m : Method PyError (SessionSpeakerState R V) α}
      (hm : Within (SessionSpeakerState.Registers none) m) :
      Within (InvImage (SessionSpeakerState.Registers none) StreamingSession.speakers)
        (onSpeakers m) := within_zoom hm (fun _ _ hrel => hrel)
  exact within_finalPass (fun _ => within_zoom_other _ (fun _ _ => rfl))
    (hspeakers (fun _ _ hid => Or.inl hid)) (fun _ _ =>
      hspeakers (registers_prepare _ _ _)) secondPass

/-- It remembers the provisionals that it did. -/
theorem emitted_finalPass (supply : Supply) (secondPass : Except PyError (OfflineResult R)) :
    Within (InvImage Eq StreamingSession.emitted) (finalPass (V := V) supply secondPass) :=
  within_finalPass (fun _ => within_zoom_other _ (fun _ _ => rfl))
    (within_zoom_other _ (fun _ _ => rfl)) (fun _ _ =>
      within_zoom_other _ (fun _ _ => rfl)) secondPass

end StreamingSession

variable [AddCommGroup V] [Module R V] [EmbeddingSpace R V]

/-! ## The ids of a run -/

namespace SessionSpeakerState

/-- A sequence of calls that need no id. -/
def Moves : SessionSpeakerState R V → SessionSpeakerState R V → Prop :=
  Relation.ReflTransGen (fun st st' => ∃ op : Op R V, op.ulid = none ∧ st' = st.step op)

instance : Std.Refl (Moves (R := R) (V := V)) := ⟨fun _ => .refl⟩

instance : IsTrans (SessionSpeakerState R V) Moves := ⟨fun _ _ _ => .trans⟩

theorem moves_of_op {α : Type} {m : Method PyError (SessionSpeakerState R V) α} (op : Op R V)
    (hulid : op.ulid = none) (hm : ∀ st, (m st).2 = st.step op) : Within Moves m :=
  fun st => .single ⟨op, hulid, hm st⟩

end SessionSpeakerState

open SessionSpeakerState

/-- They are calls on a session. -/
theorem Session.within_onSpeakers {ulids : ℕ → String} {α : Type}
    {m : Method PyError (SessionSpeakerState R V) α} (hm : Within Moves m) :
    Within (Session.Calls ulids (fun _ => True)) (Session.onSpeakers m) := by
  intro s
  show Session.Calls ulids _ s ⟨(m s.speakers).2, s.drawn⟩
  have hmoves := hm s.speakers
  generalize (m s.speakers).2 = st at hmoves
  induction hmoves with
  | refl => exact .refl
  | @tail st _ _ hop ih =>
    obtain ⟨op, hulid, rfl⟩ := hop
    exact ih.tail (.move ⟨st, s.drawn⟩ op trivial hulid)

namespace OfflinePipeline

variable {p : OfflinePipeline R} {ulids : ℕ → String}

theorem moves_reconcileSpeaker (prototypes : List (SpeakerPrototype R V)) (speakerId : String) :
    Within Moves (p.reconcileSpeaker prototypes speakerId) := by
  refine within_bind within_read (fun st => ?_)
  split
  · exact within_throw _
  · split
    · exact within_pure _
    · refine within_bind (within_ofExcept _) (fun pseudo =>
        within_bind (within_ofExcept _) (fun result => ?_))
      split
      · exact within_pure _
      · refine within_bind (within_ofExcept _) (fun allowed => ?_)
        split
        · exact within_bind (moves_of_op (.merge _ _ _) rfl (fun _ => rfl)) (fun _ => within_pure _)
        · exact within_pure _

theorem moves_resolveSpeakers
    (registry : Option (ℕ → SpeakerEmbedding R V → Except PyError (VoiceIdDecision R))) :
    Within Moves (p.resolveSpeakers registry) := by
  refine within_bind ?_ (fun _ => within_bind ?_ (fun _ => within_bind
    (moves_of_op .finalizeUnresolved rfl (fun _ => rfl)) (fun _ => within_pure _)))
  · refine within_bind within_read (fun st => ?_)
    dsimp only
    split
    · exact within_pure _
    · exact within_forEach (fun _ _ => moves_reconcileSpeaker _ _)
  · unfold applyVoiceId
    split
    · exact within_pure _
    · refine within_bind within_read (fun st => within_forEach (fun speaker _ => ?_))
      refine within_bind within_read (fun st => ?_)
      split
      · exact within_pure _
      · exact within_bind (within_ofExcept _) (fun _ => within_bind (within_ofExcept _) (fun _ =>
          within_bind (moves_of_op (.applyVoiceId _ _) rfl (fun _ => rfl)) (fun _ =>
            within_pure _)))

theorem calls_wordGroups (models : OfflineModels R V S) (pinned : Option String)
    (mono : AudioBuffer S) (diarization : DiarizationResult R) (regions : List (OverlapRegion R)) :
    Within (Session.Calls ulids Op.Plain)
      (p.wordGroups models ulids pinned mono diarization regions) :=
  within_bind (within_ofExcept _) (fun _ => within_bind (within_ofExcept _) (fun _ =>
    within_bind (within_ofExcept _) (fun _ => within_bind
      (within_mapEach (fun _ _ => calls_handleOverlapRegion _)) (fun _ => within_pure _))))

/-- **The ids in a result were drawn for it.** -/
theorem run_minted {c : RunContext R} {models : OfflineModels R V S} {pinned : Option String}
    {result : OfflineResult R} (hok : p.run c models ulids pinned = .ok result) :
    ∀ seg ∈ result.segments, ∃ i, seg.sessionSpeakerId = "sess_spk_" ++ ulids i := by
  have hplain {s t : Session R V} (h : Session.Calls ulids Op.Plain s t) :
      Session.Calls ulids (fun _ => True) s t := h.mono (fun _ _ => trivial)
  obtain ⟨_, _, _, _, segments, _, _, s₃, t, -, -, -, hclusters, hgroups, hresolved, hfused,
    hall⟩ := stages_of_run hok
  have hbefore : Session.Calls ulids (fun _ => True)
      ⟨.new c.sessionId p.config c.embeddingModelVersion, 0⟩ s₃ :=
    ((hplain ((Session.within_buildGlobalSpeakers _ _ _ _ _).rel hclusters)).trans
      (hplain ((calls_wordGroups _ _ _ _ _).rel hgroups))).trans
      ((Session.within_onSpeakers (moves_resolveSpeakers _)).rel hresolved)
  have hfuse : Session.Calls ulids (fun _ => True) s₃ t :=
    hplain (((Session.steps_calls ulids).fuse _ _ _ _ _ _).rel hfused)
  have hwell := (hbefore.keeps (wellFormed_new _ _ _)).1
  have hminted : t.Minted ulids := 
    Session.Calls.minted (hbefore.trans hfuse) (fun _ h => absurd h List.not_mem_nil)
  obtain ⟨us, _, -, hsegments⟩ := FusionEngine.fuse_spec hwell hfused
  intro seg hseg
  rw [hall] at hseg
  obtain ⟨_, -, -, -, hreg, -⟩ := exists_of_forall₂ hsegments
    ((List.perm_insertionSort _ _).mem_iff.mp hseg)
  obtain ⟨i, -, hid⟩ := hminted _ (((hfuse.keeps hwell).1.mem_order _).mpr hreg)
  exact ⟨i, hid⟩

end OfflinePipeline

/-! ## Grouping by speaker -/

/-- The event tells that the speaker with an id has another one. -/
def TellsOf (e : ServerEvent (EventPayload R)) (oldId newId : String) : Prop :=
  ∃ change, e.payload = some (.labelChange change) ∧ change.sessionSpeakerId = oldId
    ∧ newId ∈ [change.previousLabel, change.newLabel, change.reason]

instance (e : ServerEvent (EventPayload R)) (oldId newId : String) :
    Decidable (TellsOf e oldId newId) :=
  match h : e.payload with
  | some (.labelChange change) =>
    decidable_of_iff (change.sessionSpeakerId = oldId
        ∧ newId ∈ [change.previousLabel, change.newLabel, change.reason])
      ⟨fun hchange => ⟨change, h, hchange⟩, fun ⟨change', h', hchange⟩ => by
        cases h.symm.trans h'
        exact hchange⟩
  | some (.segment _) | some (.warnings _ _) | some (.failure _ _) | none =>
    isFalse (fun ⟨_, h', _⟩ => by cases h.symm.trans h')

/-- **A client can keep its grouping**: a final that replaces a provisional has
the id of the speaker that the provisional's speaker stands for, or the client
was told its id. -/
def KeepsGrouping (told : List (ServerEvent (EventPayload R))) (emitted : List Emitted)
    (speakers : SessionSpeakerState R V) : Prop :=
  ∀ f ∈ told, f.eventType = .transcriptFinal → ∀ p ∈ emitted, f.supersedesEventId = some p.eventId →
    ∃ segment : PublicSegment R, f.payload = some (.segment segment)
      ∧ ((∃ speaker, speakers.get p.sessionSpeakerId = .ok speaker
          ∧ speaker.sessionSpeakerId = segment.sessionSpeakerId)
        ∨ ∃ e ∈ told, e.eventType = .transcriptRevision
          ∧ TellsOf e p.sessionSpeakerId segment.sessionSpeakerId)

instance (payload : Option (EventPayload R)) (P : PublicSegment R → Prop) [DecidablePred P] :
    Decidable (∃ segment, payload = some (.segment segment) ∧ P segment) :=
  match payload with
  | some (.segment segment) => decidable_of_iff (P segment)
      ⟨fun h => ⟨segment, rfl, h⟩, fun ⟨_, heq, h⟩ => by
        cases heq
        exact h⟩
  | some (.labelChange _) | some (.warnings _ _) | some (.failure _ _) | none =>
    isFalse (fun ⟨_, heq, _⟩ => by cases heq)

instance decidableExistsOk {ε α : Type} (x : Except ε α) (P : α → Prop) [DecidablePred P] :
    Decidable (∃ a, x = .ok a ∧ P a) :=
  match x with
  | .ok a => decidable_of_iff (P a)
      ⟨fun h => ⟨a, rfl, h⟩, fun ⟨_, heq, h⟩ => Except.ok.inj heq ▸ h⟩
  | .error _ => isFalse (fun ⟨_, heq, _⟩ => by cases heq)

instance (told : List (ServerEvent (EventPayload R))) (emitted : List Emitted)
    (speakers : SessionSpeakerState R V) : Decidable (KeepsGrouping told emitted speakers) :=
  inferInstanceAs (Decidable (∀ f ∈ told, f.eventType = .transcriptFinal → ∀ p ∈ emitted,
    f.supersedesEventId = some p.eventId → ∃ segment : PublicSegment R,
      f.payload = some (.segment segment)
        ∧ ((∃ speaker, speakers.get p.sessionSpeakerId = .ok speaker
          ∧ speaker.sessionSpeakerId = segment.sessionSpeakerId)
        ∨ ∃ e ∈ told, e.eventType = .transcriptRevision
          ∧ TellsOf e p.sessionSpeakerId segment.sessionSpeakerId)))

namespace RollingSession

open StreamingSession

omit [AddCommGroup V] [Module R V] [EmbeddingSpace R V] in
/-- With no overlap there is nothing to keep. -/
theorem keepsGrouping_of_disjoint {supply : Supply} {s : StreamingSession R V}
    {told events : List (ServerEvent (EventPayload R))} {segments : List (TranscriptSegment R)}
    {picks : List (Option Emitted)} (h : Answers supply s told segments picks events)
    (hdisjoint : ∀ segment ∈ segments, ∀ e ∈ s.emitted,
      e.interval.intersectionMs segment.interval = 0) (speakers : SessionSpeakerState R V) :
    KeepsGrouping (told ++ events) s.emitted speakers := by
  intro f hf htype p _ hsup
  obtain ⟨q, hq, -⟩ := h.picked (h.mem_linesOf hf htype) hsup
  obtain ⟨segment, hsegment, hmay⟩ := h.stable.exists_accepted hq
  exact absurd (hdisjoint segment hsegment q hmay.1) hmay.2.ne'

omit [AddCommGroup V] [Module R V] [EmbeddingSpace R V] in
/-- **If a final replaces a provisional**, its id is one the session never
gave, and nobody told the client of it. -/
theorem not_keepsGrouping_of_overlap {supply : Supply} {s s' : StreamingSession R V}
    {told events : List (ServerEvent (EventPayload R))} {result : OfflineResult R}
    (hsaid : Said supply told s) (hu : Function.Injective supply.ulid)
    (hbuffered : 0 < s.bufferedSamples)
    (hok : finalPass supply (.ok result) s = (.ok events, s'))
    {ulids : ℕ → String} (hfresh : ∀ i j, ulids i ≠ supply.ulid j)
    (hminted : ∀ seg ∈ result.segments, ∃ i, seg.sessionSpeakerId = "sess_spk_" ++ ulids i)
    (hoverlap : ∃ segment ∈ result.segments, ∃ e ∈ s.emitted,
      0 < e.interval.intersectionMs segment.interval)
    {e : ServerEvent (EventPayload R)} (he : e.payload = none) :
    ¬ KeepsGrouping (told ++ (events ++ [e])) s.emitted s'.speakers := by
  obtain ⟨events', t, prepared, hok', ⟨run⟩⟩ := finalPass_run hsaid.wellFormed hu hbuffered result
  obtain ⟨rfl, rfl⟩ : events = events' ∧ s' = t := by
    have hsame := Prod.ext_iff.mp (hok.symm.trans hok')
    exact ⟨Except.ok.inj hsame.1, hsame.2⟩
  obtain ⟨picks, hserial, rfl⟩ := serial_prepare hsaid.nodup hsaid.eventId_ne_empty
    (fun _ _ => iff_of_false (Set.notMem_empty _) (Finset.notMem_empty _)) run.prepare
  have hstable := hserial.stable (wouldRather_asymm (List.Nodup.of_map _ hsaid.nodup))
  obtain ⟨f, hf, p, hp, hsup⟩ := run.exists_superseding hsaid hu hstable hoverlap
  obtain ⟨_, -, p', hp', hfinal⟩ := exists_of_forall₂ (run.finals hsaid hu).lines hf
  have hsegment : p'.1 ∈ result.segments := (List.of_mem_zip hp').1
  obtain ⟨i, hid⟩ := hminted p'.1 hsegment
  intro hkeeps
  obtain ⟨segment, hpayload, hwhich⟩ := hkeeps f
    (List.mem_append_right _ (List.mem_append_left _ (List.mem_filter.mp hf).1))
    hfinal.eventType p hp hsup
  obtain rfl : p'.1.toPublicDict = segment := by
    rw [hfinal.payload] at hpayload
    cases hpayload
    rfl
  rcases hwhich with ⟨speaker, hget, hsame⟩ | ⟨e', he', -, change, hchange, -, hmem⟩
  · obtain ⟨-, hspeaker, hroot, -⟩ := run.wellFormed.speakers.get_eq_ok hget
    have horder : p'.1.sessionSpeakerId ∈ s'.speakers.order := by
      rw [← show speaker.sessionSpeakerId = p'.1.sessionSpeakerId from hsame, hroot,
        run.wellFormed.speakers.mem_order]
      exact Option.isSome_iff_exists.mpr ⟨speaker, hspeaker⟩
    have hknown : p'.1.sessionSpeakerId ∈ s.speakers.order :=
      ((registers_finalPass supply (.ok result)).rel hok _ horder).resolve_right
        (fun ⟨_, hnone, _⟩ => nomatch hnone)
    obtain ⟨j, -, hj⟩ := hsaid.minted _ hknown
    exact hfresh i j ((String.append_right_inj "sess_spk_").mp (hid.symm.trans hj))
  · have hplain : change.Plain := by
      rcases List.mem_append.mp he' with he' | he'
      · exact (hsaid.told e' he').labels change hchange
      rcases List.mem_append.mp he' with he' | he'
      · exact run.labels hsaid hu e' he' change hchange
      · rw [List.mem_singleton.mp he', he] at hchange
        cases hchange
    have hprefix : "sess_spk_".toList <+: p'.1.toPublicDict.sessionSpeakerId.toList := by
      rw [show p'.1.toPublicDict.sessionSpeakerId = _ from hid, String.toList_append]
      exact List.prefix_append _ _
    rcases List.mem_cons.mp hmem with heq | hmem
    · exact hplain.previousLabel (heq ▸ hprefix)
    rcases List.mem_cons.mp hmem with heq | hmem
    · exact hplain.newLabel (heq ▸ hprefix)
    · exact hplain.reason (List.mem_singleton.mp hmem ▸ hprefix)

/-- **A client can keep its grouping exactly when no final segment overlaps a
provisional one**, in every run that finalises the session. -/
theorem keepsGrouping_iff (c : StreamingContext R) (hu : Function.Injective c.supply.ulid)
    (modelVersions : ModelVersions) (embeddingModelVersion : String)
    (commands : List (SessionCommand R V S)) (models : RollingModels R V S)
    (p : OfflinePipeline R) (rc : RunContext R) (offline : OfflineModels R V S) (ulids : ℕ → String)
    (hfresh : ∀ i j, ulids i ≠ c.supply.ulid j) (pinned : Option String)
    {events : List (ServerEvent (EventPayload R))} {t : RollingSession R V S}
    (hopen : (commands.foldl (step c) (new c modelVersions embeddingModelVersion)).isFinalized
      = false)
    (hok : finalize c models (p.run rc offline ulids pinned)
      (commands.foldl (step c) (new c modelVersions embeddingModelVersion)) = (.ok events, t)) :
    ∃ last s, process c models true { commands.foldl (step c)
        (new c modelVersions embeddingModelVersion) with stateMachine := .finalizing } =
        (.ok last, s)
      ∧ (KeepsGrouping
          (sent c (new (V := V) (S := S) c modelVersions embeddingModelVersion) commands ++ events)
          t.emitted t.speakers
        ↔ ∀ segment ∈ finalSegments s.toStreamingSession (p.run rc offline ulids pinned),
          ∀ e ∈ s.emitted, e.interval.intersectionMs segment.interval = 0) := by
  have hsaid := said_sent hu
    (said_new (c := c) (V := V) (S := S) modelVersions embeddingModelVersion) hopen
  rw [List.nil_append] at hsaid
  set s₀ := commands.foldl (step c) (new c modelVersions embeddingModelVersion)
  set told := sent c (new (V := V) (S := S) c modelVersions embeddingModelVersion) commands
  obtain ⟨last, s, finals, w, e, hprocess, hpass, rfl, hclosing, hspeakers, hemitted⟩ :=
    exists_of_finalize hopen hok
  refine ⟨last, s, hprocess, ?_⟩
  have hlast : Said c.supply (told ++ last) s.toStreamingSession :=
    (said_process hu models true).ok (s := { s₀ with stateMachine := .finalizing }) hsaid hprocess
  have hsame : s.emitted = w.emitted := (emitted_finalPass _ _).rel hpass
  rw [hspeakers, hemitted, ← hsame, List.append_assoc, ← List.append_assoc told]
  constructor
  · intro hkeeps segment hsegment p' hp'
    by_contra hoverlap
    unfold finalSegments at hsegment
    split at hsegment
    · exact absurd hsegment List.not_mem_nil
    · next hbuffered =>
      cases hrun : p.run rc offline ulids pinned with
      | error e =>
        rw [hrun] at hsegment
        exact absurd hsegment List.not_mem_nil
      | ok result =>
        rw [hrun] at hsegment hpass
        exact not_keepsGrouping_of_overlap hlast hu (Nat.pos_of_ne_zero hbuffered) hpass hfresh
          (OfflinePipeline.run_minted hrun)
          ⟨segment, hsegment, p', hp', Nat.pos_of_ne_zero hoverlap⟩ hclosing.payload hkeeps
  · intro hdisjoint
    obtain ⟨picks, hanswers⟩ := answers_finalPass hlast hu hpass
    have hwhole : Answers c.supply s.toStreamingSession (told ++ last)
        (finalSegments s.toStreamingSession (p.run rc offline ulids pinned)) picks
          (finals ++ [e]) :=
      ⟨hanswers.said, hanswers.stable, hanswers.finals.concat hclosing.isLine hclosing.supersedes⟩
    exact keepsGrouping_of_disjoint hwhole hdisjoint w.speakers

/-! ## A speaker with two ids -/

section Example

/-- The ids of the pass are not those of the session. -/
theorem pass_ne_unheard (i j : ℕ) : "pass_" ++ toString i ≠ unheard.supply.ulid j := by
  intro h
  have hmem : 'p' ∈ (toString j).toList := by
    rw [← show "pass_" ++ toString i = toString j from h, String.toList_append]
    exact List.mem_append_left _ (by decide)
  exact absurd (isDigit_of_mem_toString hmem) (by decide)

theorem keepsGrouping_iff_of_same :
    ∃ events t, closesWith yesWell = (.ok events, t) ∧ ∃ last s, process unheard (hearing yesWell)
        true { hearsOnce.foldl (step unheard) (new unheard {} "campplus") with
          stateMachine := .finalizing } = (.ok last, s)
      ∧ (KeepsGrouping (sent unheard (new unheard {} "campplus") hearsOnce ++ events)
          t.emitted t.speakers
        ↔ ∀ segment ∈ finalSegments s.toStreamingSession (passOver yesWell),
          ∀ e ∈ s.emitted, e.interval.intersectionMs segment.interval = 0) := by
  have hreturns : (closesWith yesWell).1.isOk = true := by decide +kernel
  obtain ⟨events, t, hok⟩ := exists_of_isOk hreturns
  exact ⟨events, t, hok, keepsGrouping_iff unheard unheard_injective {} "campplus" hearsOnce
    (hearing yesWell) _ _ _ _ pass_ne_unheard _ hearsOnce_open hok⟩

/-- **The final transcript knows the speaker under another id**, even when the
final pass hears the same words. -/
theorem final_has_another_speaker_id :
    ∃ events t, closesWith yesWell = (.ok events, t)
      ∧ ¬ KeepsGrouping (sent unheard (new unheard {} "campplus") hearsOnce ++ events)
        t.emitted t.speakers := by
  have hlost : ((closesWith yesWell).1.toOption.any fun events => ¬ KeepsGrouping
      (sent unheard (new unheard {} "campplus") hearsOnce ++ events)
      (closesWith yesWell).2.emitted (closesWith yesWell).2.speakers) = true := by
    decide +kernel
  rcases hclose : closesWith yesWell with ⟨e | events, t⟩
  · rw [hclose] at hlost
    cases hlost
  · rw [hclose] at hlost
    exact ⟨events, t, rfl, of_decide_eq_true (show decide _ = true from hlost)⟩

end Example

end RollingSession

end Sastt
