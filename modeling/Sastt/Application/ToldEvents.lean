import Sastt.Application.ClientTranscript
import Sastt.Domain.EventHistory

/-!
# What a client has been told

A client may be told an event twice: a final segment whose key was used before is
answered by the event from then, and a client that comes back asks for what it has
missed and gets what it has not. What it is told is always an event the session has
written at some time (`AccountedBy`), and no two of these have one id, since each
draws its own. So in whatever order a session is started, fed, finalised, failed and
replayed, and whatever raises on the way, two events with one id are one event
(`RollingSession.told_once`).

Nor is anything written that the client is not told. What raises raises before the
first event is written, except that a second pass which raises takes the events of the
last step with it. As long as none does, the client has every number up to the last
(`RollingSession.told_all`), and one that loses the connection has it again once it has
come back (`RollingSession.resumed_after_loss`).
-/

namespace Sastt

open Method

variable {R V S : Type} [Field R] [LinearOrder R] [IsStrictOrderedRing R]

namespace Session

variable [AddCommGroup V] [Module R V] [EmbeddingSpace R V] {ulids : ℕ → String}
  {allowed : Op R V → Prop} {s t : Session R V}

/-- No id is put back. -/
theorem Calls.drawn_le (h : Calls ulids allowed s t) : s.drawn ≤ t.drawn := by
  induction h with
  | refl => exact le_refl _
  | tail _ hcall ih =>
    refine ih.trans ?_
    cases hcall with
    | draw => exact Nat.le_succ _
    | mint => exact Nat.le_succ _
    | move => exact le_refl _

end Session

namespace StreamingSession

/-- **A history that accounts for what was told**: the log recounts it, every id
in it was drawn, and none twice, and what the session remembers of a provisional
segment is there too. As long as it is the whole, all of it was told. -/
structure AccountedBy (supply : Supply) (whole : Prop)
    (told past : List (ServerEvent (EventPayload R))) (s : StreamingSession R V) : Prop where
  log : s.log.Recounts past
  retention : 1 ≤ s.log.retention
  complete : whole → past ⊆ told
  told : told ⊆ past
  nodup : (past.map ServerEvent.eventId).Nodup
  drawn : ∀ e ∈ past, ∃ i < s.drawn, e.eventId = "evt_" ++ supply.ulid i
  emitted : ∀ p ∈ s.emitted, ∃ e ∈ past, e.eventType = .transcriptProvisional
    ∧ e.eventId = p.eventId

/-- What was told is accounted for. -/
def Accounted (supply : Supply) (whole : Prop) (told : List (ServerEvent (EventPayload R)))
    (s : StreamingSession R V) : Prop :=
  ∃ past, AccountedBy supply whole told past s

variable {supply : Supply} {whole : Prop} {told : List (ServerEvent (EventPayload R))}
  {s t : StreamingSession R V}

/-- Of what a method that raises has written, nothing is told. -/
theorem Accounted.drop {more : List (ServerEvent (EventPayload R))}
    (h : Accounted supply whole (told ++ more) s) : Accounted supply False told s := by
  obtain ⟨past, hpast⟩ := h
  exact ⟨past, { hpast with
    told := List.Subset.trans (List.subset_append_left _ _) hpast.told
    complete := False.elim }⟩

theorem Accounted.of_not (h : Accounted supply False told s) (hwhole : ¬ whole) :
    Accounted supply whole told s := by
  obtain ⟨past, hpast⟩ := h
  exact ⟨past, { hpast with complete := fun hw => absurd hw hwhole }⟩

/-- What does not write to the log does no harm. -/
theorem Accounted.of_log (h : Accounted supply whole told s) (hlog : t.log = s.log)
    (hdrawn : s.drawn ≤ t.drawn) (hemitted : t.emitted = s.emitted) :
    Accounted supply whole told t := by
  obtain ⟨past, hpast⟩ := h
  refine ⟨past, { hpast with
    log := hlog ▸ hpast.log
    retention := hlog ▸ hpast.retention
    drawn := fun e he => ?_
    emitted := hemitted ▸ hpast.emitted }⟩
  obtain ⟨i, hi, hid⟩ := hpast.drawn e he
  exact ⟨i, hi.trans_le hdrawn, hid⟩

/-- What the log still has is accounted for too. -/
theorem Accounted.append_logged (h : Accounted supply whole told s)
    {events : List (ServerEvent (EventPayload R))} (hevents : events ⊆ s.log.events) :
    Accounted supply whole (told ++ events) s := by
  obtain ⟨past, hpast⟩ := h
  refine ⟨past, { hpast with
    told := List.append_subset.mpr ⟨hpast.told, fun e he => ?_⟩
    complete := fun hw => List.subset_append_of_subset_left _ (hpast.complete hw) }⟩
  have hkept := hevents he
  rw [hpast.log.events] at hkept
  unfold lastSlice at hkept
  split at hkept
  · exact hkept
  · exact List.mem_of_mem_drop hkept

/-- Two events with one id are one event. -/
theorem Accounted.eq_of_eventId (h : Accounted supply whole told s)
    {e f : ServerEvent (EventPayload R)} (he : e ∈ told) (hf : f ∈ told)
    (hid : e.eventId = f.eventId) : e = f := by
  obtain ⟨past, hpast⟩ := h
  exact List.inj_on_of_nodup_map hpast.nodup (hpast.told he) (hpast.told hf) hid

/-- What is remembered of a provisional segment is not the id of something else. -/
theorem Accounted.isProvisional (h : Accounted supply whole told s)
    {e : ServerEvent (EventPayload R)} (he : e ∈ told) {p : Emitted} (hp : p ∈ s.emitted)
    (hid : p.eventId = e.eventId) : e.eventType = .transcriptProvisional := by
  obtain ⟨past, hpast⟩ := h
  obtain ⟨f, hf, htype, hfid⟩ := hpast.emitted p hp
  obtain rfl := List.inj_on_of_nodup_map hpast.nodup hf (hpast.told he) (hfid.trans hid)
  exact htype

/-- **The numbers that were told** are those that were given. -/
theorem Accounted.numbers (h : Accounted supply True told s) :
    (told.dedup.map ServerEvent.sequenceNumber).Perm (List.range' 1 s.log.sequence) := by
  obtain ⟨past, hpast⟩ := h
  have hsame : told.dedup.Perm past :=
    (List.perm_ext_iff_of_nodup (List.nodup_dedup told) (.of_map _ hpast.nodup)).mpr (fun e =>
      List.mem_dedup.trans ⟨fun he => hpast.told he, fun he => hpast.complete trivial he⟩)
  rw [hpast.log.sequence, ← hpast.log.numbers]
  exact hsame.map _

/-- **A client that comes back** is sent all it has missed, whatever was told to nobody
in between. -/
theorem Accounted.resumed {lost events : List (ServerEvent (EventPayload R))} {n : ℕ}
    (h : Accounted supply whole (told ++ lost) s)
    (hnumbers : (told.dedup.map ServerEvent.sequenceNumber).Perm (List.range' 1 n))
    (hok : s.log.replayFrom n = .ok events) :
    ((told ++ events).dedup.map ServerEvent.sequenceNumber).Perm
      (List.range' 1 s.log.sequence) := by
  obtain ⟨past, hpast⟩ := h
  obtain rfl : events = past.drop n := hpast.log.replayFrom_ok hpast.retention hok
  have htold : told ⊆ past := List.Subset.trans (List.subset_append_left _ _) hpast.told
  have hunique : (past.map ServerEvent.sequenceNumber).Nodup :=
    hpast.log.numbers ▸ List.nodup_range'
  -- the client has the first events by their numbers
  have hfirst : past.take n ⊆ told := by
    intro e he
    obtain ⟨i, hi, rfl⟩ := List.mem_take_iff_getElem.mp he
    obtain ⟨hin, hip⟩ := Nat.lt_min.mp hi
    have hgiven : past[i].sequenceNumber ∈ List.range' 1 n := by
      have hnumber := congrArg (fun l => l[i]?) hpast.log.numbers
      simp only [List.getElem?_map, List.getElem?_eq_getElem hip, Option.map_some,
        List.getElem?_range' hip] at hnumber
      rw [Option.some.inj hnumber, List.mem_range'_1]
      omega
    obtain ⟨f, hf, hsame⟩ := List.mem_map.mp (hnumbers.mem_iff.mpr hgiven)
    have hmem : f ∈ told := List.mem_dedup.mp hf
    rwa [← List.inj_on_of_nodup_map hunique (htold hmem) (List.mem_of_mem_take he) hsame]
  have hsame : (told ++ past.drop n).dedup.Perm past := by
    refine (List.perm_ext_iff_of_nodup (List.nodup_dedup _) (.of_map _ hpast.nodup)).mpr
      (fun e => List.mem_dedup.trans ⟨fun he => ?_, fun he => ?_⟩)
    · exact (List.mem_append.mp he).elim (fun he => htold he) List.mem_of_mem_drop
    · rw [← List.take_append_drop n past, List.mem_append] at he
      exact List.mem_append.mpr (he.imp_left (fun he => hfirst he))
  rw [hpast.log.sequence, ← hpast.log.numbers]
  exact hsame.map _

variable {E : PyError → StreamingSession R V → Prop}

/-- **Writing tells** a new event, or a final one from before, and does not raise. -/
theorem accounted_write (hu : Function.Injective supply.ulid)
    {f : EventFields (EventPayload R)} (hf : EventWriter.Draws f) :
    Triple (Accounted (V := V) supply whole told) (onLog (EventWriter.write supply f))
      (fun e s => Accounted supply whole (told ++ [e]) s
        ∧ (f.isFinal = false → e.eventType = f.eventType)) E := by
  rintro s ⟨past, hpast⟩
  set event := s.log.nextEvent f (supply.nowMs s.drawn) (supply.ulid s.drawn) with hevent
  have hrun : onLog (EventWriter.write supply f) s
      = ((SessionEventLog.append f (supply.nowMs s.drawn) (supply.ulid s.drawn) s.log).1,
        { s with
          log := (SessionEventLog.append f (supply.nowMs s.drawn) (supply.ulid s.drawn) s.log).2
          drawn := s.drawn + 1 }) := rfl
  have hdrawn : ∀ e ∈ past, ∃ i < s.drawn + 1, e.eventId = "evt_" ++ supply.ulid i := by
    intro e he
    obtain ⟨i, hi, hid⟩ := hpast.drawn e he
    exact ⟨i, Nat.lt_succ_of_lt hi, hid⟩
  have hid : event.eventId = "evt_" ++ supply.ulid s.drawn := by
    show (if truthy f.eventId then f.eventId.getD "" else "evt_" ++ supply.ulid s.drawn) = _
    rw [hf.id]
    rfl
  have hnew : event.eventId ∉ past.map ServerEvent.eventId := by
    intro hmem
    obtain ⟨e, he, hsame⟩ := List.mem_map.mp hmem
    obtain ⟨i, hi, hold⟩ := hpast.drawn e he
    rw [hold, hid] at hsame
    exact hi.ne (hu ((String.append_right_inj "evt_").mp hsame))
  cases hsup : s.log.suppressedBy f with
  | some old =>
    -- the event from before is in the history
    rw [SessionEventLog.append_of_suppressed hsup] at hrun
    obtain ⟨key, hfkey, hfinal⟩ := Option.bind_eq_some_iff.mp hsup
    obtain ⟨hmem, -⟩ := (hpast.log.finals key old).mp hfinal
    refine triple_at_ok hrun ⟨⟨past, { hpast with
      told := List.append_subset.mpr ⟨hpast.told, List.forall_mem_singleton.mpr hmem⟩
      complete := fun hw => List.subset_append_of_subset_left _ (hpast.complete hw)
      drawn := hdrawn }⟩, fun hplain => ?_⟩
    unfold EventFields.finalKey at hfkey
    rw [hplain] at hfkey
    cases hfkey
  | none =>
    have hkey : (event.eventId, f.revision) ∉ s.log.keys := by
      intro hmem
      obtain ⟨e, he, hsame⟩ := List.mem_map.mp ((hpast.log.keys _).mp hmem)
      exact hnew (List.mem_map.mpr ⟨e, he, congrArg Prod.fst hsame⟩)
    rw [SessionEventLog.append_of_fresh hsup hf.revision hkey, ← hevent] at hrun
    refine triple_at_ok hrun ⟨⟨past ++ [event], ?_⟩, fun _ => rfl⟩
    constructor
    · exact hpast.log.push hsup hkey
    · exact hpast.retention
    · exact fun hw => List.append_subset.mpr ⟨List.subset_append_of_subset_left _
        (hpast.complete hw), List.subset_append_right _ _⟩
    · exact List.append_subset.mpr ⟨List.subset_append_of_subset_left _ hpast.told,
        List.subset_append_right _ _⟩
    · rw [List.map_append]
      exact hpast.nodup.append (List.nodup_singleton _) (List.disjoint_singleton.mpr hnew)
    · intro e he
      rcases List.mem_append.mp he with he | he
      · exact hdrawn e he
      · rw [List.mem_singleton.mp he]
        exact ⟨s.drawn, Nat.lt_succ_self _, hid⟩
    · intro p hp
      obtain ⟨e, he, hsays⟩ := hpast.emitted p hp
      exact ⟨e, List.mem_append_left _ he, hsays⟩

theorem accounted_writeAll (hu : Function.Injective supply.ulid)
    {fs : List (EventFields (EventPayload R))} (hfs : ∀ f ∈ fs, EventWriter.Draws f) :
    Triple (Accounted (V := V) supply whole told) (onLog (EventWriter.writeAll supply fs))
      (fun es => Accounted supply whole (told ++ es)) E := by
  refine (triple_writeAll (I := fun es => Accounted supply whole (told ++ es))
    (fun f hf es => ?_)).weaken (fun s hs => by rwa [List.append_nil]) (fun _ _ hs => hs)
    (fun _ _ he => he)
  refine (accounted_write hu (hfs f hf)).weaken (fun _ hs => hs) (fun e s hs => ?_)
    (fun _ _ he => he)
  rw [List.append_assoc] at hs
  exact hs.1

/-- What leaves the log as it is tells nothing. -/
theorem accounted_silent {α : Type} {m : Method PyError (StreamingSession R V) α}
    (hm : ∀ s, (m s).2.log = s.log ∧ s.drawn ≤ (m s).2.drawn ∧ (m s).2.emitted = s.emitted) :
    Triple (Accounted supply whole told) m (fun _ => Accounted supply whole told)
      (fun _ => Accounted supply whole told) :=
  triple_of_snd (fun s hs => hs.of_log (hm s).1 (hm s).2.1 (hm s).2.2)

/-- Publishing changes of labels tells the revisions. -/
theorem accounted_drainLabelRevisions (hu : Function.Injective supply.ulid) :
    Triple (Accounted (R := R) (V := V) supply whole told) (drainLabelRevisions supply)
      (fun es => Accounted supply whole (told ++ es)) E := by
  refine triple_read (fun s hs => triple_bind (Q := fun _ => Accounted supply whole told)
    (triple_of_ok (fun t ht => ⟨_, _, rfl, ht.2.of_log rfl (le_refl _) rfl⟩))
    (fun changes => accounted_writeAll hu (fun f hf => ?_)))
  obtain ⟨change, -, rfl⟩ := List.mem_map.mp hf
  exact draws_revisionFields s change

theorem accounted_emitSegment (hu : Function.Injective supply.ulid)
    (segment : TranscriptSegment R) :
    Triple (Accounted (V := V) supply whole told) (emitSegment supply segment)
      (fun e => Accounted supply whole (told ++ [e])) E := by
  refine triple_read (fun s hs => triple_bind
    ((accounted_write hu ⟨rfl, le_refl 1⟩).weaken (fun _ ht => ht.2) (fun _ _ ht => ht)
      (fun _ _ he => he))
    (fun e => triple_bind (triple_modify (fun t ht => ?_)) (fun _ => triple_pure (fun _ ht => ht))))
  obtain ⟨⟨past, hpast⟩, htype⟩ := ht
  refine ⟨past, { hpast with emitted := fun p hp => ?_ }⟩
  rcases List.mem_append.mp hp with hp | hp
  · exact hpast.emitted p hp
  · rw [List.mem_singleton.mp hp]
    exact ⟨e, hpast.told (List.mem_append_right _ (List.mem_singleton_self e)), htype rfl, rfl⟩

/-- **The final pass** tells what it returns. -/
theorem accounted_finalPass (hu : Function.Injective supply.ulid)
    (secondPass : Except PyError (OfflineResult R)) :
    Triple (Accounted (V := V) supply whole told) (finalPass supply secondPass)
      (fun es => Accounted supply whole (told ++ es)) (fun _ => Accounted supply False told) := by
  have hnothing : ∀ {s : StreamingSession R V}, Accounted supply whole told s →
      Accounted supply whole (told ++ []) s := fun hs => by rwa [List.append_nil]
  refine triple_read (fun s hs => ?_)
  split
  · exact triple_pure (fun t ht => hnothing ht.2)
  · refine triple_bind (triple_ofExcept (fun _ _ _ ht => ht.2)
      (fun _ _ _ ht => (hnothing ht.2).drop)) (fun result => ?_)
    refine triple_bind (accounted_drainLabelRevisions hu) (fun changes => triple_bind
      (Q := fun _ => Accounted supply whole (told ++ changes)) ?_ (fun prepared => triple_bind
      (accounted_drainLabelRevisions hu) (fun more => triple_bind
      (accounted_writeAll hu (fun f hf => ?_)) (fun finals => triple_bind
      (accounted_writeAll hu (fun f hf => ?_)) (fun warning => triple_pure (fun t ht => ?_))))))
    · exact (accounted_silent (fun t => ⟨rfl, le_refl _, rfl⟩)).weaken (fun _ ht => ht)
        (fun _ _ ht => ht) (fun _ _ ht => ht.drop)
    · obtain ⟨p, -, rfl⟩ := List.mem_map.mp hf
      exact draws_finalFields result p
    · unfold warningFields at hf
      split at hf
      · cases hf
      · rw [List.mem_singleton.mp hf]
        exact ⟨rfl, le_refl 1⟩
    · simpa only [List.append_assoc] using ht

variable [AddCommGroup V] [Module R V] [EmbeddingSpace R V]

/-- What is done to the speakers, with ids that are drawn for it. -/
theorem accounted_onSession {α : Type} {m : Method PyError (Session R V) α}
    {allowed : Op R V → Prop} (hm : Within (Session.Calls supply.ulid allowed) m) :
    Triple (Accounted supply whole told) (onSession m) (fun _ => Accounted supply whole told)
      (fun _ => Accounted supply whole told) :=
  accounted_silent (fun s => ⟨rfl, (hm ⟨s.speakers, s.drawn⟩).drawn_le, rfl⟩)

theorem accounted_emitProvisional (hu : Function.Injective supply.ulid)
    (engine : FusionEngine R) (groups : List (WordGroup R)) (turns : List (SpeakerTurn R)) :
    Triple (Accounted (V := V) supply whole told) (emitProvisional supply engine groups turns)
      (fun es => Accounted supply whole (told ++ es)) (fun _ => Accounted supply whole told) := by
  refine triple_bind (accounted_onSession ((Session.steps_calls supply.ulid).fuse (V := V) engine
    turns groups false 1 none)) (fun segments => ?_)
  refine (triple_mapEach (I := fun es => Accounted supply whole (told ++ es))
    (fun segment _ es => ?_)).weaken (fun s hs => by rwa [List.append_nil]) (fun _ _ hs => hs)
    (fun _ _ he => he)
  refine (accounted_emitSegment hu segment).weaken (fun _ hs => hs) (fun e s hs => ?_)
    (fun _ _ he => he)
  rwa [List.append_assoc] at hs

end StreamingSession

namespace RollingSession

open StreamingSession

variable {c : StreamingContext R} {whole : Prop}
  {told : List (ServerEvent (EventPayload R))}

/-- A change of the audio and the marks tells nothing. -/
theorem accounted_modify {f : RollingSession R V S → RollingSession R V S}
    {E : PyError → RollingSession R V S → Prop}
    (hf : ∀ s, (f s).toStreamingSession = s.toStreamingSession) :
    Triple (fun s => Accounted c.supply whole told s.toStreamingSession) (modify f)
      (fun _ s => Accounted c.supply whole told s.toStreamingSession) E :=
  triple_modify (fun s hs => by rwa [hf])

/-- Nor do models that raise. -/
theorem accounted_ofExcept {α : Type} (x : Except PyError α) :
    Triple (fun s : RollingSession R V S => Accounted c.supply whole told s.toStreamingSession)
      (ofExcept x) (fun _ s => Accounted c.supply whole told s.toStreamingSession)
      (fun _ s => Accounted c.supply whole told s.toStreamingSession) :=
  triple_ofExcept (fun _ _ _ hs => hs) (fun _ _ _ hs => hs)

/-- A session nobody has spoken in. -/
theorem accounted_new (modelVersions : ModelVersions) (embeddingModelVersion : String) :
    Accounted c.supply whole []
      (new (V := V) (S := S) c modelVersions embeddingModelVersion).toStreamingSession :=
  ⟨[], SessionEventLog.recounts_new _ _, Nat.one_le_ofNat, fun _ => List.nil_subset _,
    List.nil_subset _, List.nodup_nil, fun _ he => absurd he List.not_mem_nil,
    fun _ hp => absurd hp List.not_mem_nil⟩

variable [AddCommGroup V] [Module R V] [EmbeddingSpace R V]

theorem accounted_resolveLanguage (models : RollingModels R V S) (mono : AudioBuffer S)
    (speech : List TimeInterval) :
    Triple (fun s => Accounted c.supply whole told s.toStreamingSession)
      (resolveLanguage (V := V) c models mono speech)
      (fun _ s => Accounted c.supply whole told s.toStreamingSession)
      (fun _ s => Accounted c.supply whole told s.toStreamingSession) :=
  triple_read (fun _ _ => triple_bind
    (triple_ofExcept (fun _ _ _ ht => ht.2) (fun _ _ _ ht => ht.2))
    (fun _ => accounted_modify (fun _ => rfl)))

theorem accounted_publish (hu : Function.Injective c.supply.ulid) (closed : List TimeInterval)
    (turns : List (SpeakerTurn R)) (calls : List (List (WordGroup R))) :
    Triple (fun s : RollingSession R V S => Accounted c.supply whole told s.toStreamingSession)
      (publish c closed turns calls)
      (fun es s => Accounted c.supply whole (told ++ es) s.toStreamingSession)
      (fun _ s => Accounted c.supply whole told s.toStreamingSession) := by
  refine triple_read (fun s hs => triple_bind
    (Q := fun es t => Accounted c.supply whole (told ++ es) t.toStreamingSession) ?_ (fun es => ?_))
  · exact (triple_onStreaming (accounted_emitProvisional hu _ _ turns)).weaken (fun t ht => ht.2)
      (fun _ _ ht => ht) (fun _ _ ht => ht)
  · exact triple_bind (accounted_modify (fun _ => rfl))
      (fun _ => triple_pure (fun t ht => ht))

/-- **A rolling step** tells what it returns. -/
theorem accounted_process (hu : Function.Injective c.supply.ulid) (models : RollingModels R V S)
    (forceClose : Bool) :
    Triple (fun s => Accounted c.supply whole told s.toStreamingSession)
      (process c models forceClose)
      (fun es s => Accounted c.supply whole (told ++ es) s.toStreamingSession)
      (fun _ s => Accounted c.supply whole told s.toStreamingSession) := by
  have hcalls {α : Type} {m : Method PyError (Session R V) α}
      (hm : Within (Session.Calls c.supply.ulid Op.Plain) m) :
      Triple (fun s : RollingSession R V S =>
          Accounted c.supply whole told s.toStreamingSession)
        (onSession m) (fun _ s => Accounted c.supply whole told s.toStreamingSession)
        (fun _ s => Accounted c.supply whole told s.toStreamingSession) :=
    triple_onStreaming (accounted_onSession hm)
  refine triple_bind (accounted_modify (fun _ => rfl))
    (fun _ => triple_read (fun s hs => ?_))
  split
  · exact triple_pure (fun t ht => by rw [List.append_nil]; exact ht.2)
  · refine triple_bind (triple_ofExcept (fun _ _ t ht => ht.2) (fun _ _ t ht => ht.2))
      (fun diarization => triple_bind (accounted_ofExcept _) (fun osd => triple_bind
        (hcalls (Session.within_buildGlobalSpeakers _ _ _ _ _)) (fun _ => triple_bind
        (accounted_ofExcept _) (fun speech => triple_bind (accounted_resolveLanguage _ _ _)
        (fun _ => triple_read (fun t ht => ?_))))))
    dsimp only
    split
    · exact (triple_onStreaming (accounted_drainLabelRevisions hu)).weaken (fun _ hs => hs.2)
        (fun _ _ hs => hs) (fun _ _ hs => hs)
    · refine triple_bind ((hcalls (within_mapEach (fun x _ =>
        calls_closedGroups _ _ _ _ _ _ _ _))).weaken
        (fun _ hs => hs.2) (fun _ _ hs => hs) (fun _ _ hs => hs)) (fun calls =>
          triple_bind (accounted_publish hu _ _ _) (fun events => triple_bind
          (triple_onStreaming (accounted_drainLabelRevisions hu)) (fun changes =>
            triple_pure (fun u hu => ?_))))
      rwa [← List.append_assoc]

/-- **A command tells what it returns**, and all it has written, if no second pass
raises. -/
theorem accounted_perform (hu : Function.Injective c.supply.ulid)
    {command : SessionCommand R V S} (hsecond : whole → ∀ models secondPass,
      command = .finalize models secondPass → secondPass.isOk = true) :
    Triple (fun s => Accounted c.supply whole told s.toStreamingSession ∧ Heard c told s)
      (perform c command) (fun es s => Accounted c.supply whole (told ++ es) s.toStreamingSession)
      (fun _ s => Accounted c.supply whole told s.toStreamingSession) := by
  have hwrite {told : List (ServerEvent (EventPayload R))} {f : EventFields (EventPayload R)}
      {E : PyError → RollingSession R V S → Prop} (hf : EventWriter.Draws f) :
      Triple (fun s : RollingSession R V S => Accounted c.supply whole told s.toStreamingSession)
        (onStreaming (onLog (EventWriter.write c.supply f)))
        (fun e s => Accounted c.supply whole (told ++ [e]) s.toStreamingSession) E := by
    unfold onStreaming
    refine ((accounted_write (E := fun _ _ => False) hu hf).zoom (by intros; rfl)).weaken
      (fun _ hs => hs) (fun _ _ hs => hs.1) (fun _ _ he => he.elim)
  cases command with
  | start =>
    refine triple_bind (Q := fun e s => Accounted c.supply whole (told ++ [e])
      s.toStreamingSession) (triple_read (fun s hs => ?_)) (fun e => triple_pure (fun s hs => hs))
    split
    · exact triple_throw (fun t ht => ht.2.1)
    · exact triple_bind (Q := fun _ t => Accounted c.supply whole told t.toStreamingSession)
        (triple_modify (fun _ ht => ht.2.1)) (fun _ => hwrite ⟨rfl, le_refl 1⟩)
  | push models frame =>
    refine triple_read (fun s hs => ?_)
    split
    · exact triple_throw (fun t ht => ht.2.1)
    · refine triple_bind (Q := fun _ t => Accounted c.supply whole told t.toStreamingSession)
        (triple_modify (fun t ht => ht.2.1.of_log rfl (le_refl _) rfl))
        (fun _ => triple_read (fun t ht => ?_))
      split
      · exact (accounted_process hu models false).weaken (fun _ hs => hs.2) (fun _ _ hs => hs)
          (fun _ _ hs => hs)
      · exact triple_pure (fun u hu => by rw [List.append_nil]; exact hu.2)
  | finalize models secondPass =>
    refine triple_read (fun s hs => ?_)
    split
    · exact triple_pure (fun t ht => by rw [List.append_nil]; exact ht.2.1)
    · next hopen =>
      refine triple_bind (Q := fun _ t => Accounted c.supply whole told t.toStreamingSession
        ∧ Said c.supply told t.toStreamingSession) (triple_modify (fun t ht => ?_)) (fun _ => ?_)
      · obtain ⟨rfl, haccounted, hheard⟩ := ht
        exact ⟨haccounted, hheard.resolve_left hopen⟩
      · refine triple_bind (((accounted_process hu models true).and
          (said_process hu models true)).weaken (fun _ ht => ht) (fun _ _ ht => ht)
          (fun _ _ ht => ht.1)) (fun events => ?_)
        refine triple_bind (((triple_onStreaming (accounted_finalPass hu secondPass)).and
          (triple_onStreaming (said_finalPass hu secondPass))).weaken (fun _ ht => ht)
          (fun _ _ ht => ht.1) (fun e t ht => ?_)) (fun finals => ?_)
        · -- the events of the last step are lost, if the second pass has raised
          refine ht.1.drop.of_not (fun hw => ?_)
          rw [hsecond hw models secondPass rfl] at ht
          cases ht.2.1
        · refine triple_bind (accounted_modify (fun _ => rfl)) (fun _ => triple_read
            (fun t ht => triple_bind ((hwrite ⟨rfl, le_refl 1⟩).weaken (fun _ hu => hu.2)
            (fun _ _ hu => hu) (fun _ _ hu => hu)) (fun last => triple_pure (fun u hu => ?_))))
          simpa only [List.append_assoc] using hu
  | fail errorCode message =>
    exact triple_bind (Q := fun e s => Accounted c.supply whole (told ++ [e]) s.toStreamingSession)
      (triple_bind (Q := fun _ t => Accounted c.supply whole told t.toStreamingSession)
        (triple_modify (fun _ ht => ht.1)) (fun _ => hwrite ⟨rfl, le_refl 1⟩))
      (fun e => triple_pure (fun s hs => hs))
  | replay lastSequenceNumber =>
    refine triple_read (fun s hs => triple_ofExcept (fun es hes t ht => ?_)
      (fun _ _ t ht => ht.2.1))
    obtain ⟨rfl, ht⟩ := ht
    exact ht.1.append_logged (fun e he => SessionEventLog.mem_of_replayFrom hes he)

theorem sent_append (s : RollingSession R V S) (before after : List (SessionCommand R V S)) :
    sent c s (before ++ after) = sent c s before ++ sent c (before.foldl (step c) s) after := by
  induction before generalizing s with
  | nil => rfl
  | cons command before ih =>
    rw [List.cons_append, sent, sent, ih, List.append_assoc]
    rfl

/-- What is heard of a session, with what a command returns. -/
theorem Heard.step (hu : Function.Injective c.supply.ulid) {s : RollingSession R V S}
    (hs : Heard c told s) (command : SessionCommand R V S) :
    Heard c (told ++ reply c s command) (step c s command) := by
  rw [step_eq_perform]
  rcases hs with hfinal | hsaid
  · exact Or.inl (isFinalized_perform hfinal command)
  · unfold reply
    rcases hrun : perform c command s with ⟨e | events, t⟩
    · rw [List.append_nil]
      exact (heard_perform hu command).error hsaid hrun
    · exact (heard_perform hu command).ok hsaid hrun

/-- **What a run has told.** -/
theorem accounted_sent (hu : Function.Injective c.supply.ulid) {s : RollingSession R V S}
    (hs : Accounted c.supply whole told s.toStreamingSession) (hheard : Heard c told s)
    {commands : List (SessionCommand R V S)} (hsecond : whole → ∀ models secondPass,
      .finalize models secondPass ∈ commands → secondPass.isOk = true) :
    Accounted c.supply whole (told ++ sent c s commands)
      (commands.foldl (step c) s).toStreamingSession := by
  induction commands generalizing s told with
  | nil => rwa [sent, List.append_nil]
  | cons command commands ih =>
    have hpass : whole → ∀ models secondPass, command = .finalize models secondPass →
        secondPass.isOk = true :=
      fun hw models secondPass heq => hsecond hw models secondPass (heq ▸ List.mem_cons_self)
    have hreply : Accounted c.supply whole (told ++ reply c s command)
        (step c s command).toStreamingSession := by
      rw [step_eq_perform]
      unfold reply
      rcases hrun : perform c command s with ⟨e | events, t⟩
      · rw [List.append_nil]
        exact (accounted_perform hu hpass).error ⟨hs, hheard⟩ hrun
      · exact (accounted_perform hu hpass).ok ⟨hs, hheard⟩ hrun
    have hrest := ih hreply (hheard.step hu command) (fun hw models secondPass hmem =>
      hsecond hw models secondPass (List.mem_cons_of_mem command hmem))
    rwa [List.append_assoc] at hrest

theorem accounted_run (hu : Function.Injective c.supply.ulid) (modelVersions : ModelVersions)
    (embeddingModelVersion : String) {commands : List (SessionCommand R V S)}
    (hsecond : whole → ∀ models secondPass,
      .finalize models secondPass ∈ commands → secondPass.isOk = true) :
    Accounted c.supply whole
      (sent c (new (V := V) c modelVersions embeddingModelVersion) commands)
      (commands.foldl (step c) (new c modelVersions embeddingModelVersion)).toStreamingSession :=
  accounted_sent hu (accounted_new modelVersions embeddingModelVersion)
    (Or.inr (said_new modelVersions embeddingModelVersion)) hsecond

/-- **Two events with one id are one event**: whatever a session is asked for, in
whatever order, and whatever raises on the way. -/
theorem told_once (hu : Function.Injective c.supply.ulid) (modelVersions : ModelVersions)
    (embeddingModelVersion : String) (commands : List (SessionCommand R V S)) :
    let told := sent c (new (V := V) c modelVersions embeddingModelVersion) commands
    ∀ e ∈ told, ∀ f ∈ told, e.eventId = f.eventId → e = f := by
  intro told e he f hf
  exact (accounted_run hu modelVersions embeddingModelVersion
    (fun h : False => h.elim)).eq_of_eventId he hf

/-- The session is closed, with a second pass that hears the same. -/
def closing : SessionCommand ℚ ℚ Unit := .finalize (hearing yesWell) (passOver yesWell)

/-- Two sentences are heard, the session is closed, and a client asks for everything
again. -/
def heardTwice : List (SessionCommand ℚ ℚ Unit) := hearsOnce ++ [closing, .replay 0]

/-- It is told every sentence again, -/
theorem told_once_of_replay :
    let told := sent unheard (new unheard {} "campplus") heardTwice
    ∀ e ∈ told, ∀ f ∈ told, e.eventId = f.eventId → e = f :=
  told_once unheard_injective {} "campplus" heardTwice

/-- **The client is told everything.** In every run in which no second pass raises,
the numbers of the events it was sent are all up to the last, each of one event, however
often it was sent. -/
theorem told_all (hu : Function.Injective c.supply.ulid) (modelVersions : ModelVersions)
    (embeddingModelVersion : String) {commands : List (SessionCommand R V S)}
    (hsecond : ∀ models secondPass, .finalize models secondPass ∈ commands →
      secondPass.isOk = true) :
    ((sent c (new (V := V) c modelVersions embeddingModelVersion) commands).dedup.map
        ServerEvent.sequenceNumber).Perm
      (List.range' 1 (commands.foldl (step c)
        (new c modelVersions embeddingModelVersion)).log.sequence) :=
  (accounted_run hu modelVersions embeddingModelVersion (fun _ : True => hsecond)).numbers

theorem heardTwice_passes (models : RollingModels ℚ ℚ Unit)
    (secondPass : Except PyError (OfflineResult ℚ)) (h : .finalize models secondPass ∈ heardTwice) :
    secondPass.isOk = true := by
  simp only [heardTwice, hearsOnce, closing, List.cons_append, List.nil_append, List.mem_cons,
    SessionCommand.finalize.injEq, reduceCtorEq, false_or, List.not_mem_nil, or_false] at h
  rw [h.2]
  decide +kernel

/-- and nothing is left out. -/
theorem told_all_heardTwice :
    ((sent unheard (new unheard {} "campplus") heardTwice).dedup.map
        ServerEvent.sequenceNumber).Perm
      (List.range' 1 (heardTwice.foldl (step unheard)
        (new unheard {} "campplus")).log.sequence) :=
  told_all unheard_injective {} "campplus" heardTwice_passes

/-- **A client that loses the connection misses nothing**, once it has come back: however
many replies were lost, and whatever has raised meanwhile, the replay from the last number
it has completes what it was sent before. -/
theorem resumed_after_loss (hu : Function.Injective c.supply.ulid)
    (modelVersions : ModelVersions) (embeddingModelVersion : String)
    {before lost : List (SessionCommand R V S)} (hsecond : ∀ models secondPass,
      .finalize models secondPass ∈ before → secondPass.isOk = true)
    {events : List (ServerEvent (EventPayload R))}
    (hok : ((before ++ lost).foldl (step c)
        (new (V := V) c modelVersions embeddingModelVersion)).log.replayFrom
      (before.foldl (step c) (new (V := V) c modelVersions embeddingModelVersion)).log.sequence
      = .ok events) :
    ((sent c (new (V := V) c modelVersions embeddingModelVersion) before ++ events).dedup.map
        ServerEvent.sequenceNumber).Perm
      (List.range' 1 ((before ++ lost).foldl (step c)
        (new (V := V) c modelVersions embeddingModelVersion)).log.sequence) := by
  have hall : Accounted c.supply False
      (sent c (new (V := V) c modelVersions embeddingModelVersion) (before ++ lost)) _ :=
    accounted_run hu modelVersions embeddingModelVersion False.elim
  rw [sent_append] at hall
  exact hall.resumed (told_all hu modelVersions embeddingModelVersion hsecond) hok

/-- The client may be gone when the session is closed. -/
theorem resumed_after_loss_closing :
    ∃ events, ((hearsOnce ++ [closing]).foldl (step unheard)
        (new unheard {} "campplus")).log.replayFrom
          (hearsOnce.foldl (step unheard) (new unheard {} "campplus")).log.sequence = .ok events
      ∧ events.length = 5
      ∧ ((sent unheard (new unheard {} "campplus") hearsOnce ++ events).dedup.map
          ServerEvent.sequenceNumber).Perm
        (List.range' 1 ((hearsOnce ++ [closing]).foldl (step unheard)
          (new unheard {} "campplus")).log.sequence) := by
  set missed := ((hearsOnce ++ [closing]).foldl (step unheard)
    (new unheard {} "campplus")).log.replayFrom
      (hearsOnce.foldl (step unheard) (new unheard {} "campplus")).log.sequence with hmissed
  have hsome : missed.toOption.map List.length = some 5 := by decide +kernel
  rcases hok : missed with e | events
  · rw [hok] at hsome
    cases hsome
  · refine ⟨events, rfl, ?_, resumed_after_loss unheard_injective {} "campplus"
      (fun models secondPass hmem => ?_) (hmissed.symm.trans hok)⟩
    · rw [hok] at hsome
      exact Option.some.inj hsome
    · simp only [hearsOnce, List.mem_cons, reduceCtorEq, List.not_mem_nil, or_self] at hmem

end RollingSession

end Sastt
