import Sastt.Application.FinalMatching

/-!
# Finals and the provisionals they replace

What the final pass matches with what, for any provisionals a session may have
delivered (`Matches`): a final segment replaces a provisional that overlaps it, and it does
replace one as long as one that overlaps it is left; one of its own track goes before one
of another, and a longer overlap before a shorter. No provisional is replaced twice.

The events that the pass appends for the segments say the same (`FinalEvent`): the event
of a segment that replaces a provisional names it, and is its second revision, and that of
any other segment is a first one. A segment whose deduplication key was used before has no
event of its own.
-/

namespace Sastt

open Method

namespace StreamingSession

section Matches

variable {R : Type} [Field R] [LinearOrder R]

/-- **The finals are matched with the provisionals they replace.** -/
structure Matches (emitted : List Emitted) (segments : List (TranscriptSegment R))
    (picks : List (Option Emitted)) : Prop where
  length : picks.length = segments.length
  overlaps : ∀ (i : ℕ) segment picked, segments[i]? = some segment →
    picks[i]? = some (some picked) →
    picked ∈ emitted ∧ 0 < picked.interval.intersectionMs segment.interval
  once : ∀ (i j : ℕ) picked picked', picks[i]? = some (some picked) →
    picks[j]? = some (some picked') → picked.eventId = picked'.eventId → i = j
  /-- What is left and overlaps a segment is no better than what it replaces: -/
  best : ∀ (i : ℕ) segment e, segments[i]? = some segment → e ∈ emitted →
    0 < e.interval.intersectionMs segment.interval → Unused picks i e →
    ∃ picked, picks[i]? = some (some picked)
      -- it is not of the segment's track where that is of another,
      ∧ (e.sourceTrack = segment.sourceTrack → picked.sourceTrack = segment.sourceTrack)
      -- and it does not overlap longer, unless it is of another track where that is not
      ∧ ((picked.sourceTrack = segment.sourceTrack → e.sourceTrack = segment.sourceTrack) →
        e.interval.intersectionMs segment.interval
          ≤ picked.interval.intersectionMs segment.interval)

variable {emitted : List Emitted} {segment : TranscriptSegment R} {e picked : Emitted}

/-- What a segment would not rather replace is no better. -/
theorem matchKey_le_iff : matchKey segment e ≤ matchKey segment picked ↔
    (e.sourceTrack = segment.sourceTrack → picked.sourceTrack = segment.sourceTrack)
      ∧ ((picked.sourceTrack = segment.sourceTrack → e.sourceTrack = segment.sourceTrack) →
        e.interval.intersectionMs segment.interval
          ≤ picked.interval.intersectionMs segment.interval) := by
  unfold matchKey
  rw [Prod.Lex.toLex_le_toLex]
  by_cases he : e.sourceTrack = segment.sourceTrack <;>
    by_cases hp : picked.sourceTrack = segment.sourceTrack <;> simp [he, hp]

/-- **The best pick of each segment**, when its turn comes, is a match. -/
theorem matches_of_best {segments : List (TranscriptSegment R)} {picks : List (Option Emitted)}
    (hlength : picks.length = segments.length)
    (hbest : ∀ (i : ℕ) segment, segments[i]? = some segment → ∃ pick, picks[i]? = some pick
      ∧ Best (MayReplace emitted segment) (WouldRather emitted segment)
        {e | e.eventId ∈ (∅ : Finset String) ∨ ¬ Unused picks i e} pick) :
    Matches emitted segments picks := by
  have hpicked : ∀ (i : ℕ) picked, picks[i]? = some (some picked) → ∃ segment,
      segments[i]? = some segment ∧ Best (MayReplace emitted segment)
        (WouldRather emitted segment)
        {e | e.eventId ∈ (∅ : Finset String) ∨ ¬ Unused picks i e} (some picked) := by
    intro i picked hi
    have hlt : i < segments.length := hlength ▸ (List.getElem?_eq_some_iff.mp hi).1
    obtain ⟨pick, hpick, hpicked⟩ := hbest i segments[i] (List.getElem?_eq_getElem hlt)
    obtain rfl := Option.some.inj (hpick.symm.trans hi)
    exact ⟨segments[i], List.getElem?_eq_getElem hlt, hpicked⟩
  have honce : ∀ (i j : ℕ) picked picked', i < j → picks[i]? = some (some picked) →
      picks[j]? = some (some picked') → picked.eventId ≠ picked'.eventId := by
    intro i j picked picked' hlt hi hj hid
    obtain ⟨_, -, -, hfree, -⟩ := hpicked j picked' hj
    exact hfree (Or.inr (fun hunused => hunused i hlt picked hi hid))
  refine ⟨hlength, fun i segment picked hsegment hi => ?_, fun i j picked picked' hi hj hid => ?_,
    fun i segment e hsegment he hoverlap hunused => ?_⟩
  · obtain ⟨segment', hsegment', haccepts, -⟩ := hpicked i picked hi
    obtain rfl := Option.some.inj (hsegment'.symm.trans hsegment)
    exact haccepts
  · rcases lt_trichotomy i j with hlt | heq | hlt
    · exact absurd hid (honce i j picked picked' hlt hi hj)
    · exact heq
    · exact absurd hid.symm (honce j i picked' picked hlt hj hi)
  · obtain ⟨pick, hpick, hbest⟩ := hbest i segment hsegment
    have hfree : e ∉ {e | e.eventId ∈ (∅ : Finset String) ∨ ¬ Unused picks i e} :=
      fun hmem => hmem.elim (Finset.notMem_empty _) (fun hnot => hnot hunused)
    cases pick with
    | none => exact absurd (hbest e ⟨he, hoverlap⟩) hfree
    | some picked =>
      refine ⟨picked, hpick, matchKey_le_iff.mp ?_⟩
      rcases eq_or_ne e picked with rfl | hne
      · exact le_refl _
      · exact (hbest.2.2 e ⟨he, hoverlap⟩ hfree hne).elim le_of_lt (fun h => h.1.le)

end Matches

section Events

variable {R V : Type} [Field R] [LinearOrder R] [IsStrictOrderedRing R] {supply : Supply}
  {s s' : StreamingSession R V}

/-- **The event of a final segment**: it names the provisional that the segment replaces, and
is its second revision, or it replaces none and is a first one. -/
structure FinalEvent (segment : TranscriptSegment R) (pick : Option Emitted)
    (e : ServerEvent (EventPayload R)) : Prop where
  payload : e.payload = some (.segment segment.toPublicDict)
  supersedes : e.supersedesEventId = pick.map Emitted.eventId
  revision : e.revision = if pick.isSome then 2 else 1

/-- **Each final segment is appended** with its event, and no event is returned twice. -/
structure AppendsFinals (log : SessionEventLog (EventPayload R))
    (segments : List (TranscriptSegment R)) (picks : List (Option Emitted))
    (events : List (ServerEvent (EventPayload R))) : Prop where
  finals : List.Forall₂ (fun p e => FinalEvent p.1 p.2 e) (segments.zip picks)
    (appendedFinals log events)
  increasing : events.Pairwise (fun e e' => e.sequenceNumber < e'.sequenceNumber)

omit [IsStrictOrderedRing R] in
/-- Then the whole transcript is published. -/
theorem AppendsFinals.publishes {log : SessionEventLog (EventPayload R)} {result : OfflineResult R}
    {picks : List (Option Emitted)} {events : List (ServerEvent (EventPayload R))}
    (hlength : picks.length = result.segments.length)
    (h : AppendsFinals log result.segments picks events) : Publishes log result events where
  payloads := by
    have hpayloads : List.Forall₂ (fun p e => some (EventPayload.segment p.1.toPublicDict)
        = ServerEvent.payload e) (result.segments.zip picks) (appendedFinals log events) :=
      h.finals.imp (fun p e hpe => hpe.payload.symm)
    have hmaps : List.Forall₂ Eq ((result.segments.zip picks).map (fun p =>
        some (EventPayload.segment p.1.toPublicDict)))
        ((appendedFinals log events).map (fun e => e.payload)) :=
      List.forall₂_map_left_iff.mpr (List.forall₂_map_right_iff.mpr hpayloads)
    rw [List.forall₂_eq_eq_eq] at hmaps
    have hfst : (result.segments.zip picks).map Prod.fst = result.segments :=
      List.map_fst_zip hlength.ge
    refine List.Perm.of_eq (hmaps.symm.trans ?_)
    calc (result.segments.zip picks).map (fun p => some (EventPayload.segment p.1.toPublicDict))
        = ((result.segments.zip picks).map Prod.fst).map
            (fun seg => some (EventPayload.segment seg.toPublicDict)) := by
          rw [List.map_map]
          rfl
      _ = _ := by rw [hfst]
  increasing := h.increasing

/-- The event records what it was made from. -/
structure Recorded (f : EventFields (EventPayload R)) (e : ServerEvent (EventPayload R)) :
    Prop where
  eventType : e.eventType = f.eventType
  revision : e.revision = f.revision
  supersedes : e.supersedesEventId = f.supersedesEventId
  payload : e.payload = f.payload

omit [IsStrictOrderedRing R] in
/-- What records the fields of a final is its event. -/
theorem finalEvent_of_recorded {result : OfflineResult R} {segment : TranscriptSegment R}
    {pick : Option Emitted} {e : ServerEvent (EventPayload R)}
    (hpick : ∀ picked ∈ pick, picked.eventId ≠ "")
    (h : Recorded (finalFields result segment (pick.map Emitted.eventId)) e) :
    FinalEvent segment pick e where
  payload := h.payload
  supersedes := h.supersedes
  revision := by
    rw [h.revision]
    unfold finalFields
    cases pick with
    | none => rfl
    | some picked =>
      have htruthy : truthy (some picked.eventId) = true := by
        simpa [truthy] using hpick picked rfl
      simp only [Option.map_some, htruthy, if_true, Option.isSome_some]

/-- **The finals that the pass appends** record what it prepared for them, and if no key was
used before there is one for each segment. -/
theorem PassRun.recorded {result : OfflineResult R} {events : List (ServerEvent (EventPayload R))}
    {prepared : List (TranscriptSegment R × Option String)} (h : s.WellFormed supply)
    (hu : Function.Injective supply.ulid) (run : PassRun supply s result events s' prepared) :
    (∀ e ∈ appendedFinals s.log events, ∃ p ∈ prepared, Recorded (finalFields result p.1 p.2) e)
      ∧ (KeysUnused s.log result → List.Forall₂
        (fun p e => Recorded (finalFields result p.1 p.2) e) prepared
          (appendedFinals s.log events)) := by
  have hnotices := run.notices
  have hwritten := run.written
  set notices := s.revisions ++ revisions { run.drained with speakers := run.reconciled }
  have hdraws : ∀ f ∈ passFields result notices prepared, EventWriter.Draws f := by
    intro f hf
    rcases mem_passFields hnotices hf with hnotice | ⟨p, -, rfl⟩
    · exact hnotice.toDraws
    · exact draws_finalFields result p
  obtain ⟨horigin, -, howned⟩ := EventWriter.writeAll_forall₂ (T := Recorded)
    (Q := fun _ e => e.sequenceNumber ≤ s.log.sequence
      ∨ ∃ f ∈ passFields result notices prepared, Recorded f e) h.writer hu hdraws (le_refl _)
    (fun f hf _ _ _ _ => ⟨Or.inr ⟨f, hf, rfl, rfl, rfl, rfl⟩, rfl, rfl, rfl, rfl⟩)
    (fun key e he => Or.inl (h.writer.log.finals key e he).1) hwritten
  constructor
  · intro e he
    obtain ⟨he, hfinal⟩ := List.mem_filter.mp he
    obtain ⟨htype, hafter⟩ := of_decide_eq_true hfinal
    obtain ⟨_, -, hold | ⟨f, hf, hrecorded⟩⟩ := exists_of_forall₂ horigin he
    · exact absurd hold (not_le_of_gt hafter)
    · rcases mem_passFields hnotices hf with hnotice | ⟨p, hp, rfl⟩
      · exact absurd (hrecorded.eventType.symm.trans htype) hnotice.eventType
      · exact ⟨p, hp, hrecorded⟩
  · intro hunused
    have hfresh := (fresh_passFields s.log hnotices run.segments).mpr hunused
    obtain ⟨events', w', hok, -, -, hspec⟩ := EventWriter.writeAll_spec h.writer hu hdraws
    obtain rfl : events = events' := Except.ok.inj (congrArg Prod.fst (hwritten.symm.trans hok))
    have hafter := (hspec.onwards_iff.mpr hfresh).lt
    have happended : appendedFinals s.log events
        = events.filter (fun e => e.eventType = .transcriptFinal) :=
      List.filter_congr (fun e he => by simp [show s.log.sequence < _ from hafter e he])
    have hfinals := List.rel_filter (p := fun f => f.isFinal)
      (q := fun e => decide (e.eventType = .transcriptFinal)) (fun f e hfe => ?_)
      ((List.forall₂_and_left _ _).mpr ⟨fun f hf => hf, howned hfresh⟩)
    · rw [happended]
      rw [show List.filter (fun f => f.isFinal) (passFields result notices prepared) = _ from
        finalsOf_passFields_eq hnotices, List.forall₂_map_left_iff] at hfinals
      exact hfinals.imp (fun _ _ h => h.2)
    · show f.isFinal = true ↔ decide (e.eventType = .transcriptFinal) = true
      rw [decide_eq_true_iff, hfe.2.eventType]
      rcases mem_passFields hnotices hfe.1 with hnotice | ⟨p, -, rfl⟩
      · exact iff_of_false (Bool.eq_false_iff.mp hnotice.notFinal) hnotice.eventType
      · exact iff_of_true rfl rfl

/-- **What the final pass does with the provisionals** of any session: it matches the final
segments with them, and what it appends says so. It appends an event for each segment
exactly when no deduplication key of theirs was used before. -/
theorem finalPass_matches (h : s.WellFormed supply) (hu : Function.Injective supply.ulid)
    (hids : ∀ e ∈ s.emitted, e.eventId ≠ "") (hn : 0 < s.bufferedSamples)
    (result : OfflineResult R) :
    ∃ events s' picks, finalPass supply (.ok result) s = (.ok events, s')
      ∧ Matches s.emitted result.segments picks
      ∧ (∀ e ∈ appendedFinals s.log events, ∃ p ∈ result.segments.zip picks,
        FinalEvent p.1 p.2 e)
      ∧ (AppendsFinals s.log result.segments picks events ↔ KeysUnused s.log result) := by
  obtain ⟨events, s', prepared, hok, ⟨run⟩⟩ := finalPass_run h hu hn result
  obtain ⟨picks, hlength, rfl, hbest⟩ := picks_of_prepare hids run.prepare
  obtain ⟨hrecorded, hall⟩ := run.recorded h hu
  have hmatches := matches_of_best hlength hbest
  have hpick : ∀ p ∈ result.segments.zip picks, ∀ picked ∈ p.2, picked.eventId ≠ "" := by
    intro p hp picked hpicked
    obtain ⟨i, hi⟩ := List.mem_iff_getElem?.mp (List.of_mem_zip hp).2
    have hlt : i < result.segments.length := hlength ▸ (List.getElem?_eq_some_iff.mp hi).1
    exact hids picked (hmatches.overlaps i _ picked (List.getElem?_eq_getElem hlt)
      (hi.trans (congrArg some hpicked))).1
  have hzip : result.segments.zip (picks.map (Option.map Emitted.eventId))
      = (result.segments.zip picks).map (Prod.map id (Option.map Emitted.eventId)) := by
    rw [List.zip_map_right]
  rw [hzip] at hrecorded hall
  obtain ⟨events', s'', hok', hiff⟩ := h.finalPass_spec hu hn result
  obtain rfl : events = events' := Except.ok.inj (congrArg Prod.fst (hok.symm.trans hok'))
  refine ⟨events, s', picks, hok, hmatches, fun e he => ?_,
    fun happends => hiff.mp (happends.publishes hlength), fun hunused => ⟨?_, ?_⟩⟩
  · obtain ⟨q, hq, hqe⟩ := hrecorded e he
    obtain ⟨p, hp, rfl⟩ := List.mem_map.mp hq
    exact ⟨p, hp, finalEvent_of_recorded (hpick p hp) hqe⟩
  · have hfinals := List.forall₂_map_left_iff.mp (hall hunused)
    exact ((List.forall₂_and_left _ _).mpr ⟨fun p hp => hp, hfinals⟩).imp
      (fun p e hpe => finalEvent_of_recorded (hpick p hpe.1) hpe.2)
  · exact (hiff.mpr hunused).increasing

end Events

section Example

/-- The session in which the two simultaneous words were heard, and delivered. -/
def heardSession : StreamingSession ℚ ℚ :=
  (emitProvisional countingSupply (.new "session" {} {} none none) [twoWords 1000]
    [{ clusterId := "A", interval := firstMs 2000 }] quietSession).2

theorem heardSession_reachable : heardSession.Reachable countingSupply :=
  .emitProvisional _ _ _ _ quietSession_reachable

theorem eventId_ne_empty_heardSession : ∀ e ∈ heardSession.emitted, e.eventId ≠ "" := by
  decide +kernel

/-- The second pass hears the same. -/
def heardAgain : OfflineResult ℚ := resultOf ((fuseTwoWords 1000).1.toOption.getD [])

/-- Its segments are matched with the two provisionals. -/
theorem finalPass_matches_of_heard :
    ∃ events s' picks, finalPass countingSupply (.ok heardAgain) heardSession = (.ok events, s')
      ∧ Matches heardSession.emitted heardAgain.segments picks := by
  obtain ⟨events, s', picks, hok, hmatches, -, -⟩ := finalPass_matches
    (heardSession_reachable.wellFormed countingSupply_injective) countingSupply_injective
    eventId_ne_empty_heardSession (show 0 < quietSession.bufferedSamples by decide) heardAgain
  exact ⟨events, s', picks, hok, hmatches⟩

/-- The provisional that the second segment replaces, after the first has taken its own. -/
def secondReplaced : Option String :=
  match heardAgain.segments with
  | [first, second] => (supersededEventId heardSession.emitted first ∅).bind
      (fun taken => supersededEventId heardSession.emitted second {taken})
  | _ => none

/-- **A final that replaces a provisional can be lost**: the second segment has the key of the
first, so nothing is appended for it, and no event names the provisional it replaces. -/
theorem finalPass_leaves_a_replaced :
    ∃ events s' replaced, finalPass countingSupply (.ok heardAgain) heardSession
        = (.ok events, s')
      ∧ secondReplaced = some replaced
      ∧ (∀ e ∈ events, e.supersedesEventId ≠ some replaced)
      ∧ ¬ ∃ picks, Matches heardSession.emitted heardAgain.segments picks
        ∧ AppendsFinals heardSession.log heardAgain.segments picks events := by
  have hwell := heardSession_reachable.wellFormed countingSupply_injective
  have hrepeats : ¬ (heardAgain.segments.map finalDedupKey).Nodup := by decide +kernel
  have hunnamed : ((finalPass countingSupply (.ok heardAgain) heardSession).1.toOption.any
      fun events => secondReplaced.any fun replaced =>
        events.all fun e => e.supersedesEventId != some replaced) = true := by
    decide +kernel
  obtain ⟨events, s', hok, hiff⟩ := hwell.finalPass_spec countingSupply_injective
    (show 0 < quietSession.bufferedSamples by decide) heardAgain
  rw [hok] at hunnamed
  obtain ⟨_, hevents, hunnamed⟩ := (Option.any_eq_true ..).mp hunnamed
  obtain rfl := Option.some.inj hevents
  obtain ⟨replaced, hreplaced, hunnamed⟩ := (Option.any_eq_true ..).mp hunnamed
  refine ⟨events, s', replaced, hok, hreplaced, fun e he => ?_, ?_⟩
  · simpa using List.all_eq_true.mp hunnamed e he
  · rintro ⟨picks, hmatches, happends⟩
    exact hrepeats (hiff.mp (happends.publishes hmatches.length)).nodup

end Example

end StreamingSession

end Sastt
