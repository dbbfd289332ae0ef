import Mathlib.Data.List.Dedup
import Sastt.Application.FinalMatching
import Sastt.Application.OfflineRun
import Sastt.Application.SessionEvents
import Sastt.Lib.Numerals

/-!
# What the client holds in the end

A client keeps the lines it is sent, and drops a line when a later event
replaces it. After the final pass it should hold the final transcript: one line
for each final segment, and no provisional line any more
(`HoldsFinalTranscript`).

A final event replaces one provisional at most, so this is a matter of
counting: it holds exactly when no two segments have one deduplication key and
the segments, choosing one after another among the provisionals they overlap,
leave none behind (`holdsFinalTranscript_iff`). When the final pass makes one
utterance of two, a provisional line stays on the screen
(`client_keeps_a_stale_line`).
-/

namespace Sastt

open Method

/-- The event is a line of the transcript. -/
def EventType.isLine : EventType → Bool
  | .transcriptProvisional | .transcriptFinal => true
  | _ => false

/-- What is the same of any two is the same of all. -/
theorem map_eq_of_forall₂ {α β γ : Type} {R : α → β → Prop} {f : α → γ} {g : β → γ} {xs : List α}
    {ys : List β} (h : List.Forall₂ R xs ys) (hR : ∀ x y, R x y → f x = g y) :
    xs.map f = ys.map g := by
  rw [← List.forall₂_eq_eq_eq, List.forall₂_map_left_iff, List.forall₂_map_right_iff]
  exact h.imp hR

section Held

variable {P : Type}

/-- The lines among events. -/
def linesOf (events : List (ServerEvent P)) : List (ServerEvent P) :=
  events.filter (fun e => e.eventType.isLine)

/-- **What a client still holds**: the lines that no later event replaces. -/
def held : List (ServerEvent P) → List (ServerEvent P)
  | [] => []
  | e :: later =>
    if e.eventType.isLine ∧ ∀ e' ∈ later, e'.supersedesEventId ≠ some e.eventId then
      e :: held later
    else held later

variable {before after : List (ServerEvent P)}

/-- Of what came before, a client drops what came after replaces. -/
theorem held_append : held (before ++ after)
    = (held before).filter (fun e => ∀ e' ∈ after, e'.supersedesEventId ≠ some e.eventId)
      ++ held after := by
  induction before with
  | nil => rfl
  | cons e before ih =>
    simp only [List.cons_append, held, List.forall_mem_append, ih]
    by_cases hline : e.eventType.isLine
        ∧ ∀ e' ∈ before, e'.supersedesEventId ≠ some e.eventId
    · by_cases hafter : ∀ e' ∈ after, e'.supersedesEventId ≠ some e.eventId
      · rw [if_pos ⟨hline.1, hline.2, hafter⟩, if_pos hline,
          List.filter_cons_of_pos (by simpa using hafter), List.cons_append]
      · rw [if_neg (fun h => hafter h.2.2), if_pos hline,
          List.filter_cons_of_neg (by simpa using hafter)]
    · rw [if_neg (fun h => hline ⟨h.1, h.2.1⟩), if_neg hline]

theorem linesOf_cons_of_line {e : ServerEvent P} (h : e.eventType.isLine = true)
    (events : List (ServerEvent P)) : linesOf (e :: events) = e :: linesOf events :=
  List.filter_cons_of_pos h

theorem linesOf_cons_of_not {e : ServerEvent P} (h : ¬ e.eventType.isLine = true)
    (events : List (ServerEvent P)) : linesOf (e :: events) = linesOf events :=
  List.filter_cons_of_neg h

theorem linesOf_append (before after : List (ServerEvent P)) :
    linesOf (before ++ after) = linesOf before ++ linesOf after := List.filter_append ..

theorem held_sublist (events : List (ServerEvent P)) : (held events).Sublist (linesOf events) := by
  induction events with
  | nil => exact List.Sublist.refl _
  | cons e events ih =>
    unfold held
    split
    · next hline =>
      rw [linesOf_cons_of_line hline.1]
      exact ih.cons_cons e
    · exact ih.trans ((List.sublist_cons_self e events).filter _)

/-- Events that replace none of each other are all held. -/
theorem held_eq_linesOf {events : List (ServerEvent P)}
    (h : ∀ e ∈ events, e.eventType.isLine = true →
      ∀ e' ∈ events, e'.supersedesEventId ≠ some e.eventId) :
    held events = linesOf events := by
  induction events with
  | nil => rfl
  | cons e events ih =>
    have hrest := ih (fun e' he' hline e'' he'' =>
      h e' (List.mem_cons_of_mem e he') hline e'' (List.mem_cons_of_mem e he''))
    unfold held
    by_cases hline : e.eventType.isLine = true
    · rw [linesOf_cons_of_line hline, hrest, if_pos ⟨hline, fun e' he' =>
        h e List.mem_cons_self hline e' (List.mem_cons_of_mem e he')⟩]
    · rw [if_neg (fun h' => hline h'.1), linesOf_cons_of_not hline, hrest]

end Held

variable {R V S : Type} [Field R] [LinearOrder R] [IsStrictOrderedRing R]

/-- **The client holds the final transcript**: a line for each final segment
and no other, and each provisional was replaced by one final. -/
structure HoldsFinalTranscript (told : List (ServerEvent (EventPayload R)))
    (segments : List (TranscriptSegment R)) : Prop where
  lines : ((held told).dedup.map (fun e => e.payload)).Perm
    (segments.map (fun seg => some (.segment seg.toPublicDict)))
  replaced : ∀ e ∈ told, e.eventType = .transcriptProvisional →
    ∃! f, f ∈ told ∧ f.eventType = .transcriptFinal ∧ f.supersedesEventId = some e.eventId

omit [IsStrictOrderedRing R] in
/-- A provisional that no event replaces stays. -/
theorem not_holds_of_stale {told : List (ServerEvent (EventPayload R))}
    (h : ∃ e ∈ told, e.eventType = .transcriptProvisional
      ∧ ∀ f ∈ told, f.supersedesEventId ≠ some e.eventId)
    (segments : List (TranscriptSegment R)) : ¬ HoldsFinalTranscript told segments := by
  intro hholds
  obtain ⟨e, he, htype, hnone⟩ := h
  obtain ⟨f, ⟨hf, -, hsup⟩, -⟩ := hholds.replaced e he htype
  exact hnone f hf hsup

namespace StreamingSession

variable {supply : Supply} {s s' : StreamingSession R V}
  {told events : List (ServerEvent (EventPayload R))}
  {prepared : List (TranscriptSegment R × Option String)}

/-- The event is the final event of a segment that was prepared. -/
structure FinalOf (n : ℕ) (supply : Supply) (p : TranscriptSegment R × Option String)
    (e : ServerEvent (EventPayload R)) : Prop where
  eventType : e.eventType = .transcriptFinal
  payload : e.payload = some (.segment p.1.toPublicDict)
  supersedes : e.supersedesEventId = p.2
  drawn : ∃ i ≥ n, e.eventId = "evt_" ++ supply.ulid i

/-- **What a pass returns**, for the segments that were prepared. -/
structure Finals (n : ℕ) (supply : Supply) (prepared : List (TranscriptSegment R × Option String))
    (events : List (ServerEvent (EventPayload R))) : Prop where
  /-- What is no line replaces nothing. -/
  remarks : ∀ e ∈ events, e.eventType.isLine = false → e.supersedesEventId = none
  /-- There is one line for each segment, of that segment or one with its
  key. -/
  lines : List.Forall₂ (fun _ e => ∃ p' ∈ prepared, FinalOf n supply p' e) prepared (linesOf events)
  /-- Segments with one key share a line. -/
  shared : ∃ byKey : String → Option (ServerEvent (EventPayload R)),
    List.Forall₂ (fun p e => byKey (finalDedupKey p.1) = some e) prepared (linesOf events)
  /-- With different keys, each has its own. -/
  own : (prepared.map (fun p => finalDedupKey p.1)).Nodup →
    List.Forall₂ (FinalOf n supply) prepared (linesOf events) ∧ (linesOf events).Nodup

/-! ## From the pass to its events -/

section Pass

variable {result : OfflineResult R} {notices : List (EventFields (EventPayload R))}
  {fs : List (EventFields (EventPayload R))}

omit [IsStrictOrderedRing R] in
theorem remark_warningFields (result : OfflineResult R) : ∀ f ∈ warningFields result, Remark f := by
  intro f hf
  have hnotice := notice_warningFields result f hf
  unfold warningFields at hf
  split at hf
  · exact absurd hf List.not_mem_nil
  · rw [List.mem_singleton.mp hf] at hnotice ⊢
    exact ⟨⟨hnotice, rfl⟩, nofun⟩

omit [IsStrictOrderedRing R] in
/-- The fields of a pass are remarks and finals. -/
theorem remark_or_final (hnotices : ∀ f ∈ notices, Remark f) {f : EventFields (EventPayload R)}
    (hf : f ∈ passFields result notices prepared) :
    Remark f ∨ ∃ p ∈ prepared, f = finalFields result p.1 p.2 := by
  unfold passFields at hf
  rw [List.mem_append, List.mem_append] at hf
  rcases hf with (hf | hf) | hf
  · exact Or.inl (hnotices f hf)
  · obtain ⟨p, hp, rfl⟩ := List.mem_map.mp hf
    exact Or.inr ⟨p, hp, rfl⟩
  · exact Or.inl (remark_warningFields result f hf)

omit [Field R] [LinearOrder R] [IsStrictOrderedRing R] in
/-- Remarks have no deduplication key. -/
theorem Remark.finalKey {f : EventFields (EventPayload R)} (hf : Remark f) : f.finalKey = none := by
  unfold EventFields.finalKey
  rw [hf.notFinal]
  rfl

omit [Field R] [LinearOrder R] [IsStrictOrderedRing R] in
/-- A remark is no line. -/
theorem Remark.not_isLine {f : EventFields (EventPayload R)} (hf : Remark f) {i : ℕ}
    {e : ServerEvent (EventPayload R)} (htakes : EventWriter.Takes supply i f e) :
    ¬ e.eventType.isLine = true := by
  have hnotFinal := hf.eventType
  have hnotProvisional := hf.notProvisional
  rw [htakes.eventType]
  cases htype : f.eventType <;> simp_all [EventType.isLine]

omit [IsStrictOrderedRing R] in
/-- What takes over a final is the final event of its segment. -/
theorem finalOf_of_takes {n i : ℕ} (hi : n ≤ i) {p : TranscriptSegment R × Option String}
    {e : ServerEvent (EventPayload R)}
    (htakes : EventWriter.Takes supply i (finalFields result p.1 p.2) e) :
    FinalOf n supply p e where
  eventType := htakes.eventType
  payload := htakes.payload
  supersedes := htakes.supersedes
  drawn := ⟨i, hi, htakes.id⟩

omit [IsStrictOrderedRing R] in
/-- **Where the lines of a pass come from**: what holds of the fields and the
events returned for them holds of the segments and the lines. -/
theorem forall₂_linesOf (hnotices : ∀ f ∈ notices, Remark f) {n : ℕ}
    {Q : EventFields (EventPayload R) → ServerEvent (EventPayload R) → Prop}
    (horigin : List.Forall₂ (fun f e => ∃ g ∈ passFields result notices prepared,
      g.finalKey = f.finalKey ∧ ∃ i ≥ n, EventWriter.Takes supply i g e)
      (passFields result notices prepared) events)
    (hQ : List.Forall₂ Q (passFields result notices prepared) events) :
    List.Forall₂ (fun p e => Q (finalFields result p.1 p.2) e ∧ ∃ p' ∈ prepared,
      FinalOf n supply p' e)
      prepared (linesOf events) := by
  have hfrom : List.Forall₂ (fun f e => (Q f e ∧ ∃ g ∈ passFields result notices prepared,
      g.finalKey = f.finalKey ∧ ∃ i ≥ n, EventWriter.Takes supply i g e)
      ∧ f ∈ passFields result notices prepared) (passFields result notices prepared) events :=
    ((List.forall₂_and_left _ _).mpr ⟨fun f hf => hf, hQ.mp (fun _ _ => And.intro) horigin⟩).imp
      (fun _ _ h => ⟨h.2, h.1⟩)
  have hlines := List.rel_filter (p := fun f => f.isFinal) (q := fun e => e.eventType.isLine)
    (fun f e hfe => ?_) hfrom
  · rw [show List.filter (fun f => f.isFinal) (passFields result notices prepared) = _ from
      finalsOf_passFields_eq (fun f hf => (hnotices f hf).toNotice), List.forall₂_map_left_iff]
        at hlines
    refine hlines.imp (fun p e hpe => ⟨hpe.1.1, ?_⟩)
    obtain ⟨-, g, hg, hkey, i, hi, htakes⟩ := hpe.1
    rcases remark_or_final hnotices hg with hremark | ⟨p', hp', rfl⟩
    · rw [hremark.finalKey] at hkey
      cases hkey
    · exact ⟨p', hp', finalOf_of_takes hi htakes⟩
  · obtain ⟨⟨-, g, hg, hkey, i, -, htakes⟩, hf⟩ := hfe
    rcases remark_or_final hnotices hf with hremark | ⟨p, hp, rfl⟩
    · rw [hremark.finalKey] at hkey
      rcases remark_or_final hnotices hg with hremark' | ⟨p', -, rfl⟩
      · exact iff_of_false (Bool.eq_false_iff.mp hremark.notFinal) (hremark'.not_isLine htakes)
      · cases hkey
    · rcases remark_or_final hnotices hg with hremark' | ⟨p', -, rfl⟩
      · rw [hremark'.finalKey] at hkey
        cases hkey
      · refine iff_of_true rfl ?_
        show e.eventType.isLine = true
        rw [htakes.eventType]
        rfl

/-- The revisions of a pass are remarks. -/
theorem PassRun.remarks (run : PassRun supply s result events s' prepared) :
    ∀ f ∈ s.revisions ++ revisions { run.drained with speakers := run.reconciled }, Remark f := by
  intro f hf
  rcases List.mem_append.mp hf with hf | hf
  · obtain ⟨change, -, rfl⟩ := List.mem_map.mp hf
    exact remark_revisionFields s change
  · obtain ⟨change, -, rfl⟩ := List.mem_map.mp hf
    exact remark_revisionFields _ change

omit [IsStrictOrderedRing R] in
theorem draws_passFields (hnotices : ∀ f ∈ notices, Remark f) :
    ∀ f ∈ passFields result notices prepared, EventWriter.Draws f := by
  intro f hf
  rcases remark_or_final hnotices hf with hremark | ⟨p, -, rfl⟩
  · exact hremark.toDraws
  · exact draws_finalFields result p

/-- **What the final pass returns.** -/
theorem PassRun.finals (hsaid : Said supply told s) (hu : Function.Injective supply.ulid)
    (run : PassRun supply s result events s' prepared) :
    Finals s.drawn supply prepared events := by
  have hnotices := run.remarks
  have hwritten := run.written
  set notices := s.revisions ++ revisions { run.drained with speakers := run.reconciled }
  have hdraws : ∀ f ∈ passFields result notices prepared, EventWriter.Draws f :=
    draws_passFields hnotices
  obtain ⟨horigin, hsame, hfresh⟩ := EventWriter.writeAll_takes hsaid.wellFormed.writer hu hdraws
    (fun f hf => hf) (le_refl s.drawn) (fun key e he => by
      rw [show s.writer.log.finalByDedupKey key = none from hsaid.unfinished key] at he
      cases he) hwritten
  refine ⟨fun e he hnot => ?_, (forall₂_linesOf hnotices horigin horigin).imp (fun _ _ h => h.2),
    ⟨s'.log.finalByDedupKey, ?_⟩, fun hnodup => ?_⟩
  · obtain ⟨_, -, g, hg, -, i, -, htakes⟩ := exists_of_forall₂ horigin he
    rcases remark_or_final hnotices hg with hremark | ⟨p, -, rfl⟩
    · exact htakes.supersedes.trans hremark.supersedes
    · rw [htakes.eventType] at hnot
      cases hnot
  · exact (forall₂_linesOf hnotices horigin hsame).imp (fun _ _ h => h.1 _ rfl)
  · have hkeys : KeysUnused s.log result := by
      refine ⟨?_, fun _ _ => hsaid.unfinished _⟩
      rwa [← run.segments, List.map_map]
    have hunused := (fresh_passFields s.log (fun f hf => (hnotices f hf).toNotice)
      run.segments).mpr hkeys
    refine ⟨(forall₂_linesOf hnotices horigin (hfresh hunused)).imp (fun p e h => ?_), ?_⟩
    · obtain ⟨⟨i, hi, htakes⟩, -⟩ := h
      exact finalOf_of_takes hi htakes
    · obtain ⟨events', w', hok, -, -, hspec⟩ :=
        EventWriter.writeAll_spec hsaid.wellFormed.writer hu hdraws
      obtain rfl : events = events' := Except.ok.inj (congrArg Prod.fst (hwritten.symm.trans hok))
      have honwards := (List.pairwise_cons.mp (hspec.onwards_iff.mpr hunused)).2
      refine (List.Pairwise.imp (fun hlt => ?_) (List.pairwise_map.mp honwards)).filter _
      exact fun heq => hlt.ne (congrArg ServerEvent.sequenceNumber heq)

end Pass

/-! ## From the events to the client -/

/-- **A pass that answers a session**: the events told before it, the segments
it goes through, the provisionals they pick, and the events it returns. -/
structure Answers (supply : Supply) (s : StreamingSession R V)
    (told : List (ServerEvent (EventPayload R))) (segments : List (TranscriptSegment R))
    (picks : List (Option Emitted)) (events : List (ServerEvent (EventPayload R))) : Prop where
  said : Said supply told s
  stable : Stable (MayReplace s.emitted) (WouldRather s.emitted) ∅ segments picks
  finals : Finals s.drawn supply (segments.zip (picks.map (Option.map Emitted.eventId))) events

namespace Answers

variable {picks : List (Option Emitted)} {segments : List (TranscriptSegment R)}

theorem length (h : Answers supply s told segments picks events) :
    segments.length = (picks.map (Option.map Emitted.eventId)).length := by
  rw [List.length_map, h.stable.length]

/-- What a final replaces is a provisional that was picked. -/
theorem picked (h : Answers supply s told segments picks events)
    {f : ServerEvent (EventPayload R)} (hf : f ∈ linesOf events) {id : String}
    (hid : f.supersedesEventId = some id) :
    ∃ p, some p ∈ picks ∧ p ∈ s.emitted ∧ p.eventId = id := by
  obtain ⟨_, -, p', hp', hfinal⟩ := exists_of_forall₂ h.finals.lines hf
  obtain ⟨pick, hpick, heq⟩ := List.mem_map.mp (List.of_mem_zip hp').2
  rw [← hfinal.supersedes, hid] at heq
  obtain ⟨p, rfl, hpid⟩ := Option.map_eq_some_iff.mp heq
  obtain ⟨_, -, hmay⟩ := h.stable.exists_accepted hpick
  exact ⟨p, hpick, hmay.1, hpid⟩

/-- A final that was told is a line of the pass. -/
theorem mem_linesOf (h : Answers supply s told segments picks events)
    {f : ServerEvent (EventPayload R)} (hf : f ∈ told ++ events)
    (htype : f.eventType = .transcriptFinal) : f ∈ linesOf events := by
  have hmem : f ∈ events := (List.mem_append.mp hf).resolve_left
    (fun hf => (h.said.told f hf).notFinal htype)
  exact List.mem_filter.mpr ⟨hmem, by rw [htype]; rfl⟩

/-- **The lines of a pass are held**: a pass replaces what was there before. -/
theorem held_eq (h : Answers supply s told segments picks events)
    (hu : Function.Injective supply.ulid) : held events = linesOf events := by
  refine held_eq_linesOf (fun e he hline e' he' hsup => ?_)
  obtain ⟨_, -, _, -, hfinal⟩ := exists_of_forall₂ h.finals.lines (List.mem_filter.mpr ⟨he, hline⟩)
  obtain ⟨i, hi, hid⟩ := hfinal.drawn
  by_cases hline' : e'.eventType.isLine = true
  · obtain ⟨p, -, hp, hpid⟩ := h.picked (List.mem_filter.mpr ⟨he', hline'⟩) hsup
    obtain ⟨j, hj, hjid⟩ := h.said.drawn p hp
    rw [hpid, hid] at hjid
    exact (hj.trans_le hi).ne' (hu ((String.append_right_inj "evt_").mp hjid))
  · rw [h.finals.remarks e' he' (Bool.eq_false_iff.mpr hline')] at hsup
    cases hsup

/-- If every provisional is replaced, the client holds the lines of the pass. -/
theorem held_told (h : Answers supply s told segments picks events)
    (hu : Function.Injective supply.ulid)
    (hreplaced : ∀ e ∈ told, e.eventType = .transcriptProvisional →
      ∃ f ∈ events, f.supersedesEventId = some e.eventId) :
    held (told ++ events) = linesOf events := by
  rw [held_append, h.held_eq hu, List.filter_eq_nil_iff.mpr, List.nil_append]
  intro e he
  obtain ⟨htold, hline⟩ := List.mem_filter.mp ((held_sublist told).subset he)
  have htype : e.eventType = .transcriptProvisional := by
    have hnot := (h.said.told e htold).notFinal
    cases hcase : e.eventType <;> simp_all [EventType.isLine]
  obtain ⟨f, hf, hsup⟩ := hreplaced e htold htype
  simpa using ⟨f, hf, hsup⟩

theorem keys (h : Answers supply s told segments picks events) :
    (segments.zip (picks.map (Option.map Emitted.eventId))).map (fun p => finalDedupKey p.1)
      = segments.map finalDedupKey := by
  have hfst := congrArg (List.map finalDedupKey) (List.map_fst_zip h.length.le)
  rwa [List.map_map] at hfst

/-- Lines that differ come from segments with different keys. -/
theorem nodup_keys (h : Answers supply s told segments picks events)
    (hnodup : (linesOf events).Nodup) : (segments.map finalDedupKey).Nodup := by
  obtain ⟨byKey, hshared⟩ := h.finals.shared
  have hlines : (segments.map finalDedupKey).map byKey = (linesOf events).map some := by
    rw [← h.keys, List.map_map]
    exact map_eq_of_forall₂ hshared (fun _ _ hkey => hkey)
  refine List.Nodup.of_map byKey ?_
  rw [hlines]
  exact hnodup.map (Option.some_injective _)

/-- With different keys, the lines replace what was picked. -/
theorem supersedes_eq (h : Answers supply s told segments picks events)
    (hnodup : (segments.map finalDedupKey).Nodup) :
    (linesOf events).map (fun f => f.supersedesEventId)
      = picks.map (Option.map Emitted.eventId) := by
  have hown := (h.finals.own (h.keys ▸ hnodup)).1
  rw [← map_eq_of_forall₂ hown (fun _ _ hfinal => hfinal.supersedes.symm)]
  exact List.map_snd_zip h.length.ge

/-- And they carry the segments. -/
theorem payload_eq (h : Answers supply s told segments picks events)
    (hnodup : (segments.map finalDedupKey).Nodup) :
    (linesOf events).map (fun f => f.payload)
      = segments.map (fun seg => some (.segment seg.toPublicDict)) := by
  have hown := (h.finals.own (h.keys ▸ hnodup)).1
  have hfst := congrArg (List.map (fun seg : TranscriptSegment R =>
    some (EventPayload.segment seg.toPublicDict))) (List.map_fst_zip h.length.le)
  rw [← map_eq_of_forall₂ hown (fun _ _ hfinal => hfinal.payload.symm), ← hfst, List.map_map]
  rfl

/-- Finals that replace the same provisional are one. -/
theorem replaces_once (h : Answers supply s told segments picks events)
    (hnodup : (segments.map finalDedupKey).Nodup)
    {f f' : ServerEvent (EventPayload R)} (hf : f ∈ linesOf events) (hf' : f' ∈ linesOf events)
    {id : String} (hid : f.supersedesEventId = some id) (hid' : f'.supersedesEventId = some id) :
    f = f' := by
  have hpick : ∀ (i : ℕ) {f : ServerEvent (EventPayload R)}, (linesOf events)[i]? = some f →
      f.supersedesEventId = some id → ∃ p, picks[i]? = some (some p) ∧ p.eventId = id := by
    intro i f hf hid
    have hi := congrArg (fun l => l[i]?) (h.supersedes_eq hnodup)
    simp only [List.getElem?_map, hf, Option.map_some, hid] at hi
    obtain ⟨pick, hpick, heq⟩ := Option.map_eq_some_iff.mp hi.symm
    obtain ⟨p, rfl, hpid⟩ := Option.map_eq_some_iff.mp heq
    exact ⟨p, hpick, hpid⟩
  have hemitted : ∀ (i : ℕ) {p : Emitted}, picks[i]? = some (some p) → p ∈ s.emitted := by
    intro i p hp
    obtain ⟨_, -, hmay⟩ := h.stable.exists_accepted (List.mem_of_getElem? hp)
    exact hmay.1
  obtain ⟨i, hi⟩ := List.mem_iff_getElem?.mp hf
  obtain ⟨j, hj⟩ := List.mem_iff_getElem?.mp hf'
  obtain ⟨p, hpi, hpid⟩ := hpick i hi hid
  obtain ⟨q, hqj, hqid⟩ := hpick j hj hid'
  obtain rfl : p = q := List.inj_on_of_nodup_map h.said.nodup (hemitted i hpi) (hemitted j hqj)
    (hpid.trans hqid.symm)
  obtain rfl := h.stable.distinct i j p hpi hqj
  exact Option.some.inj (hi.symm.trans hj)

/-- **What the client holds depends on the picks**: it holds the final
transcript when no two segments have one key and every provisional is
picked. -/
theorem holds_iff (h : Answers supply s told segments picks events)
    (hu : Function.Injective supply.ulid) :
    HoldsFinalTranscript (told ++ events) segments
      ↔ (segments.map finalDedupKey).Nodup
        ∧ ∀ e ∈ told, e.eventType = .transcriptProvisional →
          ∃ p, some p ∈ picks ∧ p.eventId = e.eventId := by
  constructor
  · intro hholds
    have hreplaced : ∀ e ∈ told, e.eventType = .transcriptProvisional →
        ∃ f ∈ linesOf events, f.supersedesEventId = some e.eventId := by
      intro e he htype
      obtain ⟨f, ⟨hf, hftype, hsup⟩, -⟩ := hholds.replaced e (List.mem_append_left _ he) htype
      exact ⟨f, h.mem_linesOf hf hftype, hsup⟩
    refine ⟨h.nodup_keys ?_, fun e he htype => ?_⟩
    · have hlength := hholds.lines.length_eq
      rw [h.held_told hu (fun e he htype => ?_), List.length_map, List.length_map] at hlength
      · have hall : (linesOf events).length = segments.length := by
          rw [← h.finals.lines.length_eq, List.length_zip, ← h.length, min_self]
        rw [← hall] at hlength
        rw [← (List.dedup_sublist _).eq_of_length hlength]
        exact List.nodup_dedup _
      · obtain ⟨f, hf, hsup⟩ := hreplaced e he htype
        exact ⟨f, (List.mem_filter.mp hf).1, hsup⟩
    · obtain ⟨f, hf, hsup⟩ := hreplaced e he htype
      obtain ⟨p, hp, -, hpid⟩ := h.picked hf hsup
      exact ⟨p, hp, hpid⟩
  · rintro ⟨hnodup, hcovered⟩
    have hdistinct := (h.finals.own (h.keys ▸ hnodup)).2
    have hreplaced : ∀ e ∈ told, e.eventType = .transcriptProvisional →
        ∃ f ∈ linesOf events, f.supersedesEventId = some e.eventId := by
      intro e he htype
      obtain ⟨p, hp, hpid⟩ := hcovered e he htype
      have hmem : some e.eventId ∈ (linesOf events).map (fun f => f.supersedesEventId) := by
        rw [h.supersedes_eq hnodup, ← hpid]
        exact List.mem_map_of_mem hp
      exact List.mem_map.mp hmem
    constructor
    · rw [h.held_told hu (fun e he htype => ?_), hdistinct.dedup]
      · exact List.Perm.of_eq (h.payload_eq hnodup)
      · obtain ⟨f, hf, hsup⟩ := hreplaced e he htype
        exact ⟨f, (List.mem_filter.mp hf).1, hsup⟩
    · intro e he htype
      have htold : e ∈ told := by
        refine (List.mem_append.mp he).resolve_right (fun he => ?_)
        obtain ⟨_, -, _, -, hfinal⟩ := exists_of_forall₂ h.finals.lines
          (List.mem_filter.mpr ⟨he, by rw [htype]; rfl⟩)
        rw [hfinal.eventType] at htype
        cases htype
      obtain ⟨f, hf, hsup⟩ := hreplaced e htold htype
      obtain ⟨_, -, _, -, hfinal⟩ := exists_of_forall₂ h.finals.lines hf
      refine ⟨f, ⟨List.mem_append_right _ (List.mem_filter.mp hf).1, hfinal.eventType, hsup⟩, ?_⟩
      rintro f' ⟨hf', htype', hsup'⟩
      exact h.replaces_once hnodup (h.mem_linesOf hf' htype') hf hsup' hsup

end Answers

/-- **The segments leave no provisional behind**: their keys differ, and if
they choose among the provisionals one after another, each that was told is
chosen. -/
structure ReplaceAll (emitted : List Emitted) (told : List (ServerEvent (EventPayload R)))
    (segments : List (TranscriptSegment R)) : Prop where
  keys : (segments.map finalDedupKey).Nodup
  picks : ∃ picks, Stable (MayReplace emitted) (WouldRather emitted) ∅ segments picks
    ∧ ∀ e ∈ told, e.eventType = .transcriptProvisional → ∃ p, some p ∈ picks ∧ p.eventId = e.eventId

variable {picks : List (Option Emitted)} {segments : List (TranscriptSegment R)}

/-- There is one way to choose. -/
theorem Answers.replaceAll_iff (h : Answers supply s told segments picks events)
    (hu : Function.Injective supply.ulid) :
    HoldsFinalTranscript (told ++ events) segments ↔ ReplaceAll s.emitted told segments := by
  have hasymm := fun segment =>
    wouldRather_asymm (R := R) (List.Nodup.of_map _ h.said.nodup) segment
  have htotal := fun segment => @wouldRather_total R _ _ s.emitted segment
  rw [h.holds_iff hu]
  constructor
  · rintro ⟨hkeys, hpicks⟩
    exact ⟨hkeys, picks, h.stable, hpicks⟩
  · rintro ⟨hkeys, picks', hstable, hpicks⟩
    obtain rfl : picks = picks' :=
      (h.stable.serial htotal).unique hasymm (hstable.serial htotal)
    exact ⟨hkeys, hpicks⟩

omit [IsStrictOrderedRing R] in
/-- One more event that is no line. -/
theorem Finals.concat {n : ℕ} (h : Finals n supply prepared events)
    {e : ServerEvent (EventPayload R)} (hline : e.eventType.isLine = false)
    (hsupersedes : e.supersedesEventId = none) : Finals n supply prepared (events ++ [e]) := by
  have hsame : linesOf (events ++ [e]) = linesOf events := by
    rw [linesOf_append, linesOf_cons_of_not (Bool.eq_false_iff.mp hline)]
    exact List.append_nil _
  constructor
  · intro e' he' hnot
    rcases List.mem_append.mp he' with he' | he'
    · exact h.remarks e' he' hnot
    · rw [List.mem_singleton.mp he']
      exact hsupersedes
  · rw [hsame]
    exact h.lines
  · rw [hsame]
    exact h.shared
  · rw [hsame]
    exact h.own

/-- The segments of a final pass: none, if there is no audio. -/
def finalSegments (s : StreamingSession R V) (secondPass : Except PyError (OfflineResult R)) :
    List (TranscriptSegment R) :=
  if s.bufferedSamples = 0 then []
  else match secondPass with
    | .ok result => result.segments
    | .error _ => []

/-- **The final pass answers the session.** -/
theorem answers_finalPass (hsaid : Said supply told s) (hu : Function.Injective supply.ulid)
    {secondPass : Except PyError (OfflineResult R)}
    (hok : finalPass supply secondPass s = (.ok events, s')) :
    ∃ picks, Answers supply s told (finalSegments s secondPass) picks events := by
  unfold finalSegments
  rcases Nat.eq_zero_or_pos s.bufferedSamples with hnone | hsome
  · unfold finalPass at hok
    rw [read_bind, if_pos hnone] at hok
    obtain rfl : [] = events := Except.ok.inj (congrArg Prod.fst hok)
    rw [if_pos hnone]
    exact ⟨[], hsaid, (Serial.nil ∅).stable (wouldRather_asymm (List.Nodup.of_map _ hsaid.nodup)),
      fun _ he => absurd he List.not_mem_nil, .nil, ⟨fun _ => none, .nil⟩,
      fun _ => ⟨.nil, List.nodup_nil⟩⟩
  · rw [if_neg hsome.ne']
    cases secondPass with
    | error e =>
      unfold finalPass at hok
      rw [read_bind, if_neg hsome.ne'] at hok
      cases hok
    | ok result =>
      obtain ⟨events', t, prepared, hok', ⟨run⟩⟩ := finalPass_run hsaid.wellFormed hu hsome result
      obtain rfl : events = events' :=
        Except.ok.inj (Prod.ext_iff.mp (hok.symm.trans hok')).1
      have hnone : ∀ e ∈ s.emitted, e ∈ (∅ : Set Emitted) ↔ e.eventId ∈ (∅ : Finset String) :=
        fun _ _ => iff_of_false (Set.notMem_empty _) (Finset.notMem_empty _)
      obtain ⟨picks, hserial, rfl⟩ := serial_prepare hsaid.nodup hsaid.eventId_ne_empty hnone
        run.prepare
      exact ⟨picks, hsaid, hserial.stable (wouldRather_asymm (List.Nodup.of_map _ hsaid.nodup)),
        run.finals hsaid hu⟩

end StreamingSession

namespace RollingSession

open StreamingSession

variable [AddCommGroup V] [Module R V] [EmbeddingSpace R V]

/-- **The event that closes a session** is no line, and says nothing. -/
structure Closing (e : ServerEvent (EventPayload R)) : Prop where
  isLine : e.eventType.isLine = false
  supersedes : e.supersedesEventId = none
  payload : e.payload = none

/-- **Finalising a session** is a last step, the final pass, and one event. -/
theorem exists_of_finalize {c : StreamingContext R} {models : RollingModels R V S}
    {secondPass : Except PyError (OfflineResult R)} {s₀ t : RollingSession R V S}
    {events : List (ServerEvent (EventPayload R))} (hopen : s₀.isFinalized = false)
    (hok : finalize c models secondPass s₀ = (.ok events, t)) :
    ∃ last s finals w e, process c models true { s₀ with stateMachine := .finalizing } =
    (.ok last, s)
      ∧ finalPass c.supply secondPass s.toStreamingSession = (.ok finals, w)
      ∧ events = last ++ finals ++ [e] ∧ Closing e
      ∧ t.speakers = w.speakers ∧ t.emitted = w.emitted := by
  unfold finalize at hok
  rw [read_bind, if_neg (by rw [hopen]; exact Bool.false_ne_true), modify_bind] at hok
  obtain ⟨last, s, hprocess, hok⟩ := bind_eq_ok.mp hok
  obtain ⟨finals, u, hfinals, hok⟩ := bind_eq_ok.mp hok
  rw [modify_bind, read_bind] at hok
  obtain ⟨e, v, hend, hok⟩ := bind_eq_ok.mp hok
  cases hok
  obtain ⟨w, hpass, rfl⟩ := zoom_eq_ok hfinals
  obtain ⟨x, hlog, rfl⟩ := zoom_eq_ok hend
  obtain ⟨y, hwrite, rfl⟩ := zoom_eq_ok hlog
  have hevent := EventWriter.write_keyless rfl hwrite
  refine ⟨last, s, finals, w, e, hprocess, hpass, rfl, ?_, rfl, rfl⟩
  rw [hevent]
  exact ⟨rfl, rfl, rfl⟩

/-- **The client holds the final transcript exactly when the segments leave no
provisional behind**, in every run that finalises the session. -/
theorem holdsFinalTranscript_iff (c : StreamingContext R) (hu : Function.Injective c.supply.ulid)
    (modelVersions : ModelVersions) (embeddingModelVersion : String)
    (commands : List (SessionCommand R V S)) (models : RollingModels R V S)
    (secondPass : Except PyError (OfflineResult R)) {events : List (ServerEvent (EventPayload R))}
    {t : RollingSession R V S}
    (hopen : (commands.foldl (step c) (new c modelVersions embeddingModelVersion)).isFinalized
      = false)
    (hok : finalize c models secondPass
      (commands.foldl (step c) (new c modelVersions embeddingModelVersion)) = (.ok events, t)) :
    ∃ last s, process c models true { commands.foldl (step c)
        (new c modelVersions embeddingModelVersion) with stateMachine := .finalizing } =
        (.ok last, s)
      ∧ (HoldsFinalTranscript
          (sent c (new (V := V) (S := S) c modelVersions embeddingModelVersion) commands ++ events)
          (finalSegments s.toStreamingSession secondPass)
        ↔ ReplaceAll s.emitted
          (sent c (new (V := V) (S := S) c modelVersions embeddingModelVersion) commands ++ last)
          (finalSegments s.toStreamingSession secondPass)) := by
  have hsaid := said_sent hu
    (said_new (c := c) (V := V) (S := S) modelVersions embeddingModelVersion) hopen
  rw [List.nil_append] at hsaid
  set s₀ := commands.foldl (step c) (new c modelVersions embeddingModelVersion)
  set told := sent c (new (V := V) (S := S) c modelVersions embeddingModelVersion) commands
  obtain ⟨last, s, finals, w, e, hprocess, hpass, rfl, hclosing, -, -⟩ :=
    exists_of_finalize hopen hok
  refine ⟨last, s, hprocess, ?_⟩
  have hlast : Said c.supply (told ++ last) s.toStreamingSession :=
    (said_process hu models true).ok (s := { s₀ with stateMachine := .finalizing }) hsaid hprocess
  obtain ⟨picks, hanswers⟩ := answers_finalPass hlast hu hpass
  have hwhole : Answers c.supply s.toStreamingSession (told ++ last)
      (finalSegments s.toStreamingSession secondPass) picks (finals ++ [e]) :=
    ⟨hanswers.said, hanswers.stable, hanswers.finals.concat hclosing.isLine hclosing.supersedes⟩
  rw [← hwhole.replaceAll_iff hu, List.append_assoc, List.append_assoc]

/-! ## Two sentences that become one -/

section Example

/-- Somebody says these words in the first four tenths of a second. -/
def saying (words : List (Word ℚ)) : PipelineAdapters ℚ ℚ Unit where
  vad place buffer := .ok (if place = [] then [firstMs 400] else [buffer.interval])
  transcribe _ _ _ _ := .ok (.english words)
  embed _ _ _ _ _ _ := noVoice

/-- It is one person. -/
def oneTurn : DiarizationResult ℚ := .found [{ clusterId := "A", interval := firstMs 400 }] []

/-- The models of a rolling step that hear these words, -/
def hearing (words : List (Word ℚ)) : RollingModels ℚ ℚ Unit where
  adapters := saying words
  diarizer _ := .ok oneTurn
  overlapDetector _ := .ok []
  detectLanguage _ := .ok ("en", 1)

/-- and those of the final pass. -/
def hearingAll (words : List (Word ℚ)) : OfflineModels ℚ ℚ Unit where
  decoded := .ok {
    durationMs := 400
    mono := recordedSilence 6399 }
  adapters := saying words
  diarizer _ := .ok oneTurn
  overlapDetector _ := .ok []
  detectLanguage _ := .ok ("en", 1)

/-- The second pass over what was said. -/
def passOver (words : List (Word ℚ)) : Except PyError (OfflineResult ℚ) :=
  OfflinePipeline.run { unheard.pipeline with allowProvisionalContinuity := true }
    .ofSession (hearingAll words) (fun n => "pass_" ++ toString n) none

/-- Two sentences. -/
def yesWell : List (Word ℚ) := [
  .heard "Yes." 50 150 none,
  .heard "Well" 200 350 none]

/-- The same words without the full stop. -/
def yesWellTogether : List (Word ℚ) := [
  .heard "Yes" 50 150 none,
  .heard "well" 200 350 none]

/-- A session that is started, and hears them. -/
def hearsOnce : List (SessionCommand ℚ ℚ Unit) :=
  [.start, .push (hearing yesWell) (List.replicate 6400 ())]

/-- The session is still open. -/
theorem hearsOnce_open :
    (hearsOnce.foldl (step unheard) (new unheard {} "campplus")).isFinalized = false := by
  decide +kernel

/-- Closing it, with a second pass over these words. -/
def closesWith (words : List (Word ℚ)) :
    Except PyError (List (ServerEvent (EventPayload ℚ))) × RollingSession ℚ ℚ Unit :=
  finalize unheard (hearing yesWell) (passOver words)
    (hearsOnce.foldl (step unheard) (new unheard {} "campplus"))

/-- The final pass may hear the same. -/
theorem holdsFinalTranscript_iff_of_same :
    ∃ events t, closesWith yesWell = (.ok events, t) ∧ ∃ last s, process unheard (hearing yesWell)
        true { hearsOnce.foldl (step unheard) (new unheard {} "campplus") with
          stateMachine := .finalizing } = (.ok last, s)
      ∧ (HoldsFinalTranscript (sent unheard (new unheard {} "campplus") hearsOnce ++ events)
          (finalSegments s.toStreamingSession (passOver yesWell))
        ↔ ReplaceAll s.emitted (sent unheard (new unheard {} "campplus") hearsOnce ++ last)
          (finalSegments s.toStreamingSession (passOver yesWell))) := by
  have hreturns : (closesWith yesWell).1.isOk = true := by decide +kernel
  obtain ⟨events, t, hok⟩ := exists_of_isOk hreturns
  exact ⟨events, t, hok, holdsFinalTranscript_iff unheard unheard_injective {} "campplus" hearsOnce
    (hearing yesWell) (passOver yesWell) hearsOnce_open hok⟩

/-- **A provisional line stays on the screen** when the final pass makes one
utterance of two. -/
theorem client_keeps_a_stale_line :
    ∃ events t, closesWith yesWellTogether = (.ok events, t)
      ∧ ∀ segments, ¬ HoldsFinalTranscript
        (sent unheard (new unheard {} "campplus") hearsOnce ++ events) segments := by
  have hstale : ((closesWith yesWellTogether).1.toOption.any fun events => ∃ e ∈ events,
      e.eventType = .transcriptProvisional ∧ ∀ f ∈ sent unheard (new unheard {} "campplus")
        hearsOnce ++ events, f.supersedesEventId ≠ some e.eventId) = true := by
    decide +kernel
  rcases hclose : closesWith yesWellTogether with ⟨e | events, t⟩
  · rw [hclose] at hstale
    cases hstale
  · rw [hclose] at hstale
    obtain ⟨e, he, hrest⟩ := of_decide_eq_true (show decide _ = true from hstale)
    exact ⟨events, t, rfl, not_holds_of_stale ⟨e, List.mem_append_right _ he, hrest⟩⟩

end Example

end RollingSession

end Sastt
