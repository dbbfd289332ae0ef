import Sastt.Adapters.EventStores
import Sastt.Application.ClientTranscript
import Sastt.Application.FinalSpeakers
import Sastt.Application.ToldEvents

/-!
# The live page

The page that comes with the program keeps a row for each event about the transcript
that it receives. An event takes away the row of the event it supersedes, and the row
it has itself from before. So what is on the page is what no later event took away
(`LivePage.live_foldl`), and as two events with one id are one event, a client that
is told something twice sees it once.

A revision of a label is an event about the transcript as well. It says who a speaker
is, but the page gives it a row like any other, with nothing in it, and no event ever
takes it away. So the page shows the final transcript exactly when the segments leave
no provisional behind and no label was revised (`page_shows_final_iff`).
-/

namespace Sastt

open Method

/-- `String(e.type).startsWith("transcript.")`. -/
def EventType.isTranscript (type : EventType) : Bool :=
  "transcript.".toList.isPrefixOf type.value.toList

/-- A line is about the transcript, and so is a revision. -/
theorem EventType.isTranscript_iff (type : EventType) :
    type.isTranscript = true ↔ type.isLine = true ∨ type = .transcriptRevision := by
  cases type <;> decide +kernel

/-- A row: the payload of an event, with the id of the event as `_event`. -/
structure LiveRow (P : Type) where
  payload : Option P
  event : String

/-- What the page holds of a session: `S.live`, `S.events` and the text of
`live-state`. -/
structure LivePage (P : Type) where
  live : List (LiveRow P) := []
  events : List (ServerEvent P) := []
  state : String := "Chưa kết nối"

namespace LivePage

variable {P : Type}

/-- The row of an event. -/
def rowOf (e : ServerEvent P) : LiveRow P := ⟨e.payload, e.eventId⟩

/-- The rows after an event about the transcript. -/
def place (live : List (LiveRow P)) (e : ServerEvent P) : List (LiveRow P) :=
  let live := if truthy e.supersedesEventId then
      live.filter (fun x => some x.event ≠ e.supersedesEventId)
    else live
  live.filter (fun x => x.event ≠ e.eventId) ++ [rowOf e]

/-- `event`: a message from the server. -/
def event (page : LivePage P) (e : ServerEvent P) : LivePage P where
  live := if e.eventType.isTranscript then place page.live e else page.live
  events := (e :: page.events).take 100
  state := if e.eventType = .sessionFinalized then "Đã finalize" else "Đang stream"

/-- The event takes away the row of an event with this id. -/
def takesAway (e : ServerEvent P) (id : String) : Bool :=
  e.eventType.isTranscript
    && ((truthy e.supersedesEventId && e.supersedesEventId == some id) || e.eventId == id)

/-- **The events that are on the page**: those that no later event takes away. -/
def onPage : List (ServerEvent P) → List (ServerEvent P)
  | [] => []
  | e :: later =>
    if e.eventType.isTranscript ∧ ∀ e' ∈ later, takesAway e' e.eventId = false then
      e :: onPage later
    else onPage later

theorem takesAway_iff {e : ServerEvent P} {id : String} : takesAway e id = true
    ↔ e.eventType.isTranscript = true
      ∧ (truthy e.supersedesEventId = true ∧ e.supersedesEventId = some id ∨ e.eventId = id) := by
  simp [takesAway]

theorem place_eq {e : ServerEvent P} (htype : e.eventType.isTranscript = true)
    (live : List (LiveRow P)) :
    place live e = live.filter (fun x => takesAway e x.event = false) ++ [rowOf e] := by
  unfold place
  dsimp only
  refine congrArg (· ++ [rowOf e]) ?_
  split
  · next htruthy =>
    rw [List.filter_filter]
    refine List.filter_congr (fun x _ => ?_)
    rw [← Bool.decide_and, decide_eq_decide, ← Bool.not_eq_true, takesAway_iff]
    grind
  · next hfalsy =>
    refine List.filter_congr (fun x _ => ?_)
    rw [decide_eq_decide, ← Bool.not_eq_true, takesAway_iff]
    grind

/-- **What is on the page**: the rows from before and the new ones, less what was taken
away since. -/
theorem live_foldl (events : List (ServerEvent P)) (page : LivePage P) :
    (events.foldl event page).live
      = page.live.filter (fun x => ∀ e ∈ events, takesAway e x.event = false)
        ++ (onPage events).map rowOf := by
  induction events generalizing page with
  | nil => simp [onPage]
  | cons e later ih =>
    rw [List.foldl_cons, ih]
    by_cases htype : e.eventType.isTranscript = true
    · have hlive : (event page e).live
          = page.live.filter (fun x => takesAway e x.event = false) ++ [rowOf e] := by
        rw [← place_eq htype]
        exact if_pos htype
      rw [hlive, List.filter_append, List.filter_filter, List.append_assoc]
      congr 1
      · exact List.filter_congr (fun x _ => by simp [Bool.and_comm])
      · rw [onPage, List.filter_cons, List.filter_nil]
        by_cases hlast : ∀ e' ∈ later, takesAway e' (rowOf e).event = false
        · rw [if_pos (decide_eq_true hlast), if_pos ⟨htype, hlast⟩]
          rfl
        · rw [if_neg (fun h => hlast (of_decide_eq_true h)), if_neg (fun h => hlast h.2)]
          rfl
    · have hlive : (event page e).live = page.live := if_neg htype
      have hnever : ∀ id, takesAway e id = false := by
        intro id
        unfold takesAway
        rw [Bool.eq_false_iff.mpr htype, Bool.false_and]
      rw [hlive, onPage, if_neg (fun h => htype h.1)]
      simp [hnever]

/-- Of what came before, what came after takes away. -/
theorem onPage_append (before after : List (ServerEvent P)) :
    onPage (before ++ after)
      = (onPage before).filter (fun e => ∀ e' ∈ after, takesAway e' e.eventId = false)
        ++ onPage after := by
  induction before with
  | nil => rfl
  | cons e before ih =>
    simp only [List.cons_append, onPage, List.forall_mem_append, ih]
    by_cases hbefore : e.eventType.isTranscript = true
        ∧ ∀ e' ∈ before, takesAway e' e.eventId = false
    · by_cases hafter : ∀ e' ∈ after, takesAway e' e.eventId = false
      · rw [if_pos ⟨hbefore.1, hbefore.2, hafter⟩, if_pos hbefore,
          List.filter_cons_of_pos (by simpa using hafter), List.cons_append]
      · rw [if_neg (fun h => hafter h.2.2), if_pos hbefore,
          List.filter_cons_of_neg (by simpa using hafter)]
    · rw [if_neg (fun h => hbefore ⟨h.1, h.2.1⟩), if_neg hbefore]

/-- Only what was received is on the page, if it is about the transcript. -/
theorem mem_of_onPage {events : List (ServerEvent P)} {e : ServerEvent P}
    (h : e ∈ onPage events) : e ∈ events ∧ e.eventType.isTranscript = true := by
  induction events with
  | nil => cases h
  | cons e' later ih =>
    unfold onPage at h
    split at h
    · next hkept =>
      rcases List.mem_cons.mp h with rfl | h
      · exact ⟨List.mem_cons_self, hkept.1⟩
      · exact ⟨List.mem_cons_of_mem e' (ih h).1, (ih h).2⟩
    · exact ⟨List.mem_cons_of_mem e' (ih h).1, (ih h).2⟩

/-- No two rows are of one id. -/
theorem nodup_onPage (events : List (ServerEvent P)) :
    ((onPage events).map ServerEvent.eventId).Nodup := by
  induction events with
  | nil => exact List.nodup_nil
  | cons e later ih =>
    unfold onPage
    split
    · next hkept =>
      refine List.nodup_cons.mpr ⟨fun hmem => ?_, ih⟩
      obtain ⟨e', he', hid⟩ := List.mem_map.mp hmem
      obtain ⟨hlater, htype⟩ := mem_of_onPage he'
      have hstays := hkept.2 e' hlater
      unfold takesAway at hstays
      rw [htype, hid] at hstays
      simp at hstays
    · exact ih

/-- What nothing supersedes is on the page. -/
theorem exists_onPage {events : List (ServerEvent P)} {e : ServerEvent P} (he : e ∈ events)
    (htype : e.eventType.isTranscript = true)
    (hnone : ∀ e' ∈ events, e'.supersedesEventId ≠ some e.eventId) :
    ∃ e' ∈ onPage events, e'.eventId = e.eventId := by
  induction events generalizing e with
  | nil => cases he
  | cons first later ih =>
    have hlater : ∀ e' ∈ later, e'.supersedesEventId ≠ some e.eventId :=
      fun e' he' => hnone e' (List.mem_cons_of_mem first he')
    by_cases hagain : ∃ e' ∈ later, e'.eventType.isTranscript = true ∧ e'.eventId = e.eventId
    · obtain ⟨e', he', htype', hid⟩ := hagain
      obtain ⟨e'', hmem, hid'⟩ := ih he' htype' (hid ▸ hlater)
      refine ⟨e'', ?_, hid'.trans hid⟩
      unfold onPage
      split
      · exact List.mem_cons_of_mem first hmem
      · exact hmem
    · rcases List.mem_cons.mp he with rfl | he
      · refine ⟨e, ?_, rfl⟩
        have hkept : ∀ e' ∈ later, takesAway e' e.eventId = false := by
          intro e' he'
          have hown : e'.eventType.isTranscript = true → e'.eventId ≠ e.eventId :=
            fun htype' hid => hagain ⟨e', he', htype', hid⟩
          have hsup := hlater e' he'
          unfold takesAway
          cases htype' : e'.eventType.isTranscript
          · rfl
          · simp [hown htype', hsup]
        unfold onPage
        rw [if_pos ⟨htype, hkept⟩]
        exact List.mem_cons_self
      · exact absurd ⟨e, he, htype, rfl⟩ hagain

end LivePage

variable {R V S : Type} [Field R] [LinearOrder R] [IsStrictOrderedRing R]

/-- **The page shows the final transcript**: a row for each final segment, and no row
of an event that is not final. -/
structure ShowsFinalTranscript (told : List (ServerEvent (EventPayload R)))
    (page : LivePage (EventPayload R)) (segments : List (TranscriptSegment R)) : Prop where
  rows : (page.live.map LiveRow.payload).Perm
    (segments.map (fun seg => some (.segment seg.toPublicDict)))
  finals : ∀ row ∈ page.live, ∃ f ∈ told, f.eventType = .transcriptFinal ∧ f.eventId = row.event

/-- A page that is opened for a session: `fileStream` empties it. -/
def LivePage.receive {P : Type} (told : List (ServerEvent P)) : LivePage P :=
  told.foldl LivePage.event {}

theorem LivePage.live_receive {P : Type} (told : List (ServerEvent P)) :
    (receive told).live = (onPage told).map rowOf :=
  live_foldl told {}

namespace StreamingSession.Answers

open LivePage

variable {supply : Supply} {s t : StreamingSession R V}
  {told events : List (ServerEvent (EventPayload R))} {picks : List (Option Emitted)}
  {segments : List (TranscriptSegment R)}

/-- **What supersedes an event** is a line of the pass, and the event was a provisional
that was picked. -/
theorem supersedes_cases (h : Answers supply s told segments picks events)
    (hall : Accounted supply False (told ++ events) t) (hemitted : t.emitted = s.emitted)
    {e f : ServerEvent (EventPayload R)} (he : e ∈ told ++ events) (hf : f ∈ told ++ events)
    (hsup : f.supersedesEventId = some e.eventId) :
    e.eventType = .transcriptProvisional ∧ ∃ p, some p ∈ picks ∧ p.eventId = e.eventId := by
  have hline : f ∈ linesOf events := by
    rcases List.mem_append.mp hf with hf | hf
    · rw [(h.said.told f hf).supersedes] at hsup
      cases hsup
    · refine List.mem_filter.mpr ⟨hf, ?_⟩
      by_contra hnot
      rw [h.finals.remarks f hf (Bool.eq_false_iff.mpr hnot)] at hsup
      cases hsup
  obtain ⟨p, hp, hmem, hpid⟩ := h.picked hline hsup
  exact ⟨hall.isProvisional he (hemitted ▸ hmem) hpid, p, hp, hpid⟩

/-- What is no provisional is on the page. -/
theorem mem_onPage (h : Answers supply s told segments picks events)
    (hall : Accounted supply False (told ++ events) t) (hemitted : t.emitted = s.emitted)
    {e : ServerEvent (EventPayload R)} (he : e ∈ told ++ events)
    (htype : e.eventType.isTranscript = true) (hnot : e.eventType ≠ .transcriptProvisional) :
    e ∈ onPage (told ++ events) := by
  obtain ⟨e', hmem, hid⟩ := exists_onPage he htype
    (fun f hf hsup => hnot (h.supersedes_cases hall hemitted he hf hsup).1)
  rwa [← hall.eq_of_eventId (mem_of_onPage hmem).1 he hid]

/-- **The page shows the final transcript** when the client holds it and no label was
revised. -/
theorem showsFinalTranscript_iff (h : Answers supply s told segments picks events)
    (hu : Function.Injective supply.ulid) (hall : Accounted supply False (told ++ events) t)
    (hemitted : t.emitted = s.emitted) :
    ShowsFinalTranscript (told ++ events) (receive (told ++ events)) segments
      ↔ ReplaceAll s.emitted told segments
        ∧ ∀ e ∈ told ++ events, e.eventType ≠ .transcriptRevision := by
  rw [← h.replaceAll_iff hu, h.holds_iff hu]
  constructor
  · rintro ⟨hrows, hfinals⟩
    rw [live_receive] at hrows hfinals
    have hfinal : ∀ e ∈ onPage (told ++ events), e.eventType = .transcriptFinal := by
      intro e he
      obtain ⟨f, hf, htype, hid⟩ := hfinals _ (List.mem_map_of_mem he)
      rwa [← hall.eq_of_eventId hf (mem_of_onPage he).1 hid]
    refine ⟨⟨h.nodup_keys ?_, fun e he htype => ?_⟩, fun e he htype => ?_⟩
    · have hdistinct : (onPage (told ++ events)).Nodup := .of_map _ (nodup_onPage _)
      have hsub : onPage (told ++ events) ⊆ (linesOf events).dedup := fun e he =>
        List.mem_dedup.mpr (h.mem_linesOf (mem_of_onPage he).1 (hfinal e he))
      have hcount : (onPage (told ++ events)).length = (linesOf events).length := by
        have hlength := hrows.length_eq
        rw [List.length_map, List.length_map, List.length_map] at hlength
        rw [hlength, ← h.finals.lines.length_eq, List.length_zip, ← h.length, min_self]
      have hle := (List.subperm_of_subset hdistinct hsub).length_le
      rw [hcount] at hle
      rw [← (List.dedup_sublist _).eq_of_length
        (le_antisymm (List.dedup_sublist _).length_le hle)]
      exact List.nodup_dedup _
    · by_contra hstale
      obtain ⟨e', hmem, hid⟩ := exists_onPage (List.mem_append_left events he)
        ((EventType.isTranscript_iff _).mpr (Or.inl (by rw [htype]; rfl)))
        (fun f hf hsup => hstale
          (h.supersedes_cases hall hemitted (List.mem_append_left events he) hf hsup).2)
      obtain rfl := hall.eq_of_eventId (mem_of_onPage hmem).1 (List.mem_append_left events he) hid
      rw [hfinal _ hmem] at htype
      cases htype
    · have hshown := h.mem_onPage hall hemitted he
        ((EventType.isTranscript_iff _).mpr (Or.inr htype)) (by rw [htype]; decide)
      rw [hfinal e hshown] at htype
      cases htype
  · rintro ⟨⟨hkeys, hcovered⟩, hunrevised⟩
    have hdistinct := (h.finals.own (h.keys ▸ hkeys)).2
    have hlines : (onPage (told ++ events)).Perm (linesOf events) := by
      refine (List.perm_ext_iff_of_nodup (.of_map _ (nodup_onPage _)) hdistinct).mpr
        (fun e => ⟨fun he => ?_, fun he => ?_⟩)
      · obtain ⟨hmem, htype⟩ := mem_of_onPage he
        have hline := ((EventType.isTranscript_iff _).mp htype).resolve_right (hunrevised e hmem)
        rw [onPage_append, List.mem_append] at he
        rcases he with he | he
        · -- a provisional that was told before the pass is superseded by it
          obtain ⟨he, hkept⟩ := List.mem_filter.mp he
          have htold := (mem_of_onPage he).1
          have hprovisional : e.eventType = .transcriptProvisional := by
            have hnot := (h.said.told e htold).notFinal
            cases hcase : e.eventType <;> simp_all [EventType.isLine]
          obtain ⟨p, hp, hpid⟩ := hcovered e htold hprovisional
          have hreplaced :
              some e.eventId ∈ (linesOf events).map (fun f => f.supersedesEventId) := by
            rw [h.supersedes_eq hkeys, ← hpid]
            exact List.mem_map_of_mem hp
          obtain ⟨f, hf, hsup⟩ := List.mem_map.mp hreplaced
          obtain ⟨hfmem, hfline⟩ := List.mem_filter.mp hf
          have hstays := of_decide_eq_true hkept f hfmem
          obtain ⟨_, -, hmay⟩ := h.stable.exists_accepted hp
          have htaken : takesAway f e.eventId = true := by
            refine takesAway_iff.mpr ⟨(EventType.isTranscript_iff _).mpr (Or.inl hfline),
              Or.inl ⟨?_, hsup⟩⟩
            rw [hsup, ← hpid]
            have hne := h.said.eventId_ne_empty p hmay.1
            simp [truthy, hne]
          rw [htaken] at hstays
          cases hstays
        · exact List.mem_filter.mpr ⟨(mem_of_onPage he).1, hline⟩
      · obtain ⟨hmem, hline⟩ := List.mem_filter.mp he
        obtain ⟨_, -, _, -, hfinal⟩ := exists_of_forall₂ h.finals.lines he
        refine h.mem_onPage hall hemitted (List.mem_append_right told hmem)
          ((EventType.isTranscript_iff _).mpr (Or.inl hline)) ?_
        rw [hfinal.eventType]
        decide
    constructor
    · rw [live_receive, List.map_map]
      refine (hlines.map _).trans (List.Perm.of_eq ?_)
      exact h.payload_eq hkeys
    · rw [live_receive]
      intro row hrow
      obtain ⟨e, he, rfl⟩ := List.mem_map.mp hrow
      obtain ⟨_, -, _, -, hfinal⟩ := exists_of_forall₂ h.finals.lines (hlines.mem_iff.mp he)
      exact ⟨e, (mem_of_onPage he).1, hfinal.eventType, rfl⟩

end StreamingSession.Answers

namespace RollingSession

open StreamingSession

variable [AddCommGroup V] [Module R V] [EmbeddingSpace R V]

/-- **The page shows the final transcript** exactly when the segments leave no
provisional behind and no label was revised, in every run that finalises the session. -/
theorem page_shows_final_iff (c : StreamingContext R) (hu : Function.Injective c.supply.ulid)
    (modelVersions : ModelVersions) (embeddingModelVersion : String)
    (commands : List (SessionCommand R V S)) (models : RollingModels R V S)
    (secondPass : Except PyError (OfflineResult R)) {events : List (ServerEvent (EventPayload R))}
    {t : RollingSession R V S}
    (hopen : (commands.foldl (step c) (new c modelVersions embeddingModelVersion)).isFinalized
      = false)
    (hok : finalize c models secondPass
      (commands.foldl (step c) (new c modelVersions embeddingModelVersion)) = (.ok events, t)) :
    let before := sent c (new (V := V) (S := S) c modelVersions embeddingModelVersion) commands
    ∃ last s, process c models true { commands.foldl (step c)
        (new c modelVersions embeddingModelVersion) with stateMachine := .finalizing } =
        (.ok last, s)
      ∧ (ShowsFinalTranscript (before ++ events) (LivePage.receive (before ++ events))
          (finalSegments s.toStreamingSession secondPass)
        ↔ ReplaceAll s.emitted (before ++ last) (finalSegments s.toStreamingSession secondPass)
          ∧ ∀ e ∈ before ++ events, e.eventType ≠ .transcriptRevision) := by
  intro before
  have hsaid := said_sent hu
    (said_new (c := c) (V := V) (S := S) modelVersions embeddingModelVersion) hopen
  have haccounted : Accounted c.supply False before
      (commands.foldl (step c) (new c modelVersions embeddingModelVersion)).toStreamingSession :=
    accounted_run hu modelVersions embeddingModelVersion False.elim
  rw [List.nil_append] at hsaid
  set s₀ := commands.foldl (step c) (new c modelVersions embeddingModelVersion)
  obtain ⟨last, s, finals, w, e, hprocess, hpass, rfl, hclosing, -, hemitted⟩ :=
    exists_of_finalize hopen hok
  refine ⟨last, s, hprocess, ?_⟩
  have hlast : Said c.supply (before ++ last) s.toStreamingSession :=
    (said_process hu models true).ok (s := { s₀ with stateMachine := .finalizing }) hsaid hprocess
  obtain ⟨picks, hanswers⟩ := answers_finalPass hlast hu hpass
  have hwhole : Answers c.supply s.toStreamingSession (before ++ last)
      (finalSegments s.toStreamingSession secondPass) picks (finals ++ [e]) :=
    ⟨hanswers.said, hanswers.stable, hanswers.finals.concat hclosing.isLine hclosing.supersedes⟩
  have hall : Accounted c.supply False (before ++ (last ++ finals ++ [e]))
      t.toStreamingSession :=
    (accounted_perform hu False.elim).ok ⟨haccounted, Or.inr hsaid⟩
      (show perform c (.finalize models secondPass) s₀ = _ from hok)
  have hsame : s.emitted = w.emitted := (emitted_finalPass _ _).rel hpass
  rw [List.append_assoc last, ← List.append_assoc before] at hall ⊢
  exact hwhole.showsFinalTranscript_iff hu hall (hemitted.trans hsame.symm)

/-- When the final pass hears what was heard before, -/
theorem page_shows_final_iff_of_same :
    ∃ events t, closesWith yesWell = (.ok events, t) ∧ ∃ last s, process unheard (hearing yesWell)
        true { hearsOnce.foldl (step unheard) (new unheard {} "campplus") with
          stateMachine := .finalizing } = (.ok last, s)
      ∧ (ShowsFinalTranscript (sent unheard (new unheard {} "campplus") hearsOnce ++ events)
          (LivePage.receive (sent unheard (new unheard {} "campplus") hearsOnce ++ events))
          (finalSegments s.toStreamingSession (passOver yesWell))
        ↔ ReplaceAll s.emitted (sent unheard (new unheard {} "campplus") hearsOnce ++ last)
            (finalSegments s.toStreamingSession (passOver yesWell))
          ∧ ∀ e ∈ sent unheard (new unheard {} "campplus") hearsOnce ++ events,
            e.eventType ≠ .transcriptRevision) := by
  have hreturns : (closesWith yesWell).1.isOk = true := by decide +kernel
  obtain ⟨events, t, hok⟩ := exists_of_isOk hreturns
  exact ⟨events, t, hok, page_shows_final_iff unheard unheard_injective {} "campplus" hearsOnce
    (hearing yesWell) (passOver yesWell) hearsOnce_open hok⟩

end RollingSession

end Sastt
