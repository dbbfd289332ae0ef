import Mathlib.Data.Prod.Lex
import Sastt.Application.FinalTranscript
import Sastt.Lib.SerialChoice

/-!
# Which provisionals the finals replace

The first loop of the final pass goes through the final segments in order, and
each replaces one provisional: among those it overlaps that no earlier segment
has replaced, one of its own track if there is one, and then the one it
overlaps longest, the first emitted of equals. This is a serial choice
(`serial_prepare`), so the picks are known from the segments and the
provisionals alone, as the one assignment that is stable.
-/

namespace Sastt

open Method

namespace StreamingSession

section

variable {R : Type} [Field R] [LinearOrder R]

/-- How well a provisional fits a segment: whether its track is the segment's,
and then how long they overlap. -/
def matchKey (segment : TranscriptSegment R) (e : Emitted) : ℕ ×ₗ ℕ :=
  toLex (if e.sourceTrack = segment.sourceTrack then 1 else 0,
    e.interval.intersectionMs segment.interval)

/-- **A segment may replace the provisionals it overlaps.** -/
def MayReplace (emitted : List Emitted) (segment : TranscriptSegment R) (e : Emitted) : Prop :=
  e ∈ emitted ∧ 0 < e.interval.intersectionMs segment.interval

/-- **A segment would rather replace** what fits better, or as well and was
emitted first. -/
def WouldRather (emitted : List Emitted) (segment : TranscriptSegment R) (e e' : Emitted) : Prop :=
  matchKey segment e' < matchKey segment e
    ∨ (matchKey segment e' = matchKey segment e ∧ [e, e'].Sublist emitted)

/-- No provisional comes both before and after another. -/
theorem not_sublist_of_sublist {α : Type} {l : List α} {a b : α} (hnodup : l.Nodup)
    (h : [a, b].Sublist l) : ¬ [b, a].Sublist l := by
  induction l with
  | nil => exact nofun
  | cons x l ih =>
    obtain ⟨hx, hnodup⟩ := List.nodup_cons.mp hnodup
    intro h'
    cases h with
    | cons _ h =>
      cases h' with
      | cons _ h' => exact ih hnodup h h'
      | cons_cons _ h' => exact hx (h.subset (List.mem_cons_of_mem a List.mem_cons_self))
    | cons_cons _ h =>
      cases h' with
      | cons _ h' => exact hx (h'.subset (List.mem_cons_of_mem b List.mem_cons_self))
      | cons_cons _ h' => exact hx (List.singleton_sublist.mp h)

theorem sublist_or_sublist {α : Type} {l : List α} {a b : α} (ha : a ∈ l) (hb : b ∈ l)
    (hne : a ≠ b) : [a, b].Sublist l ∨ [b, a].Sublist l := by
  induction l with
  | nil => exact absurd ha List.not_mem_nil
  | cons x l ih =>
    rcases List.mem_cons.mp ha with rfl | hal
    · exact Or.inl ((List.singleton_sublist.mpr
        ((List.mem_cons.mp hb).resolve_left hne.symm)).cons_cons a)
    · rcases List.mem_cons.mp hb with rfl | hbl
      · exact Or.inr ((List.singleton_sublist.mpr hal).cons_cons b)
      · exact (ih hal hbl).imp (List.Sublist.cons x) (List.Sublist.cons x)

variable {emitted : List Emitted} {segment : TranscriptSegment R}

theorem wouldRather_asymm (hnodup : emitted.Nodup) (segment : TranscriptSegment R)
    (e e' : Emitted) (h : WouldRather emitted segment e e') :
    ¬ WouldRather emitted segment e' e := by
  rintro (h' | ⟨heq, h'⟩)
  · rcases h with h | ⟨heq, -⟩
    · exact lt_asymm h h'
    · exact h'.ne heq.symm
  · rcases h with h | ⟨-, h⟩
    · exact h.ne heq.symm
    · exact not_sublist_of_sublist hnodup h h'

theorem wouldRather_total (segment : TranscriptSegment R) (e e' : Emitted)
    (h : MayReplace emitted segment e) (h' : MayReplace emitted segment e') (hne : e ≠ e') :
    WouldRather emitted segment e e' ∨ WouldRather emitted segment e' e := by
  rcases lt_trichotomy (matchKey segment e) (matchKey segment e') with hlt | heq | hlt
  · exact Or.inr (Or.inl hlt)
  · exact (sublist_or_sublist h.1 h'.1 hne).imp (fun hs => Or.inr ⟨heq.symm, hs⟩)
      (fun hs => Or.inr ⟨heq, hs⟩)
  · exact Or.inl (Or.inl hlt)

/-- What the loop of `_superseded_event_id` has found after some provisionals:
the one the segment would rather replace than the others. -/
def Found (segment : TranscriptSegment R) (used : Finset String) (pre : List Emitted)
    (best : Option Emitted × ℕ × ℕ) : Prop :=
  match best.1 with
  | none => toLex best.2 = ((toLex (0, 0) : ℕ ×ₗ ℕ))
      ∧ ∀ e, MayReplace pre segment e → e.eventId ∈ used
  | some e => toLex best.2 = matchKey segment e ∧ MayReplace pre segment e ∧ e.eventId ∉ used
      ∧ ∀ e', MayReplace pre segment e' → e'.eventId ∉ used → e' ≠ e → WouldRather pre segment e e'

/-- The comparison of the loop is that of the keys. -/
theorem lex_lt_iff {a b c d : ℕ} :
    (a < c ∨ (a = c ∧ b < d)) ↔ (toLex (a, b) : ℕ ×ₗ ℕ) < toLex (c, d) :=
  (Prod.Lex.toLex_lt_toLex (x := (a, b)) (y := (c, d))).symm

/-- A turn of the loop, by the keys. -/
theorem betterEmitted_eq (segment : TranscriptSegment R) (used : Finset String)
    (best : Option Emitted × ℕ × ℕ) (e : Emitted) :
    betterEmitted segment used best e
      = if e.eventId ∈ used ∨ e.interval.intersectionMs segment.interval = 0 then best
        else if toLex best.2 < matchKey segment e then (some e, ofLex (matchKey segment e))
        else best := by
  unfold betterEmitted matchKey
  generalize (if e.sourceTrack = segment.sourceTrack then 1 else 0) = sameTrack
  by_cases hused : e.eventId ∈ used
  · rw [if_pos hused, if_pos (Or.inl hused)]
  · rw [if_neg hused]
    by_cases hoverlap : e.interval.intersectionMs segment.interval = 0
    · simp only [hoverlap, if_true, or_true]
    · simp only [hused, hoverlap, if_false, or_self, lex_lt_iff]
      rfl

/-- One turn of the loop. -/
theorem Found.step {used : Finset String} {pre : List Emitted} {best : Option Emitted × ℕ × ℕ}
    (h : Found segment used pre best) (x : Emitted) :
    Found segment used (pre ++ [x]) (betterEmitted segment used best x) := by
  have hmem : ∀ e, MayReplace (pre ++ [x]) segment e → MayReplace pre segment e ∨ e = x := by
    rintro e ⟨he, hoverlap⟩
    exact (List.mem_append.mp he).imp (fun he => ⟨he, hoverlap⟩) List.mem_singleton.mp
  have hmore : ∀ e, MayReplace pre segment e → MayReplace (pre ++ [x]) segment e :=
    fun e he => ⟨List.mem_append_left [x] he.1, he.2⟩
  have hrather : ∀ e e', WouldRather pre segment e e' → WouldRather (pre ++ [x]) segment e e' :=
    fun e e' he => he.imp_right (fun he => ⟨he.1, he.2.trans (List.sublist_append_left pre [x])⟩)
  -- a turn that keeps the best says nothing new, if the new one is no better
  have hkeep : (MayReplace (pre ++ [x]) segment x → x.eventId ∉ used →
        ∃ e, best.1 = some e ∧ WouldRather (pre ++ [x]) segment e x) →
      Found segment used (pre ++ [x]) best := by
    intro hx
    unfold Found at h ⊢
    split at h
    · next hnone =>
      refine ⟨h.1, fun e he => ?_⟩
      rcases hmem e he with he | rfl
      · exact h.2 e he
      · by_contra hfree
        obtain ⟨_, hsome, -⟩ := hx he hfree
        rw [hnone] at hsome
        cases hsome
    · next e hsome =>
      refine ⟨h.1, hmore e h.2.1, h.2.2.1, fun e' he' hfree hne => ?_⟩
      rcases hmem e' he' with he' | rfl
      · exact hrather e e' (h.2.2.2 e' he' hfree hne)
      · obtain ⟨e'', hsome', hbetter⟩ := hx he' hfree
        rw [hsome] at hsome'
        cases hsome'
        exact hbetter
  rw [betterEmitted_eq]
  split
  · next hnot =>
    refine hkeep (fun hx hfree => ?_)
    exact absurd (hnot.resolve_left hfree) hx.2.ne'
  · next hnot =>
    obtain ⟨hfree, hoverlap⟩ := not_or.mp hnot
    split
    · next hbetter =>
      refine ⟨rfl, ⟨List.mem_append_right pre List.mem_cons_self, Nat.pos_of_ne_zero hoverlap⟩,
        hfree, fun e' he' hfree' hne => Or.inl ?_⟩
      replace he' := (hmem e' he').resolve_right hne
      unfold Found at h
      split at h
      · exact absurd (h.2 e' he') hfree'
      · next e _ =>
        by_cases hsame : e' = e
        · rw [hsame, ← h.1]
          exact hbetter
        · rcases h.2.2.2 e' he' hfree' hsame with hworse | ⟨hequal, -⟩
          · exact hworse.trans (h.1 ▸ hbetter)
          · rw [hequal, ← h.1]
            exact hbetter
    · next hworse =>
      refine hkeep (fun hx _ => ?_)
      unfold Found at h
      split at h
      · refine absurd ?_ hworse
        rw [h.1]
        refine lex_lt_iff.mp ?_
        split
        · exact Or.inl one_pos
        · exact Or.inr ⟨rfl, hx.2⟩
      · next e hsome =>
        rw [h.1, not_lt] at hworse
        refine ⟨e, hsome, hworse.lt_or_eq.imp id (fun heq => ⟨heq, ?_⟩)⟩
        exact (List.singleton_sublist.mpr h.2.1.1).append (List.Sublist.refl [x])

/-- **`_superseded_event_id` finds the best provisional that is left.** -/
theorem best_supersededEventId (emitted : List Emitted) (segment : TranscriptSegment R)
    (used : Finset String) {taken : Set Emitted}
    (htaken : ∀ e ∈ emitted, e ∈ taken ↔ e.eventId ∈ used) :
    ∃ pick, supersededEventId emitted segment used = pick.map Emitted.eventId
      ∧ Best (MayReplace emitted segment) (WouldRather emitted segment) taken pick := by
  have hfound : Found segment used emitted
    (emitted.foldl (betterEmitted segment used) (none, 0, 0)) := by
    induction emitted using List.reverseRecOn with
    | nil => exact ⟨rfl, fun e he => absurd he.1 List.not_mem_nil⟩
    | append_singleton pre x ih =>
      rw [List.foldl_concat]
      exact (ih (fun e he => htaken e (List.mem_append_left [x] he))).step x
  refine ⟨_, rfl, ?_⟩
  unfold Found at hfound
  split at hfound
  · next hnone =>
    rw [hnone]
    exact fun e he => (htaken e he.1).mpr (hfound.2 e he)
  · next e hsome =>
    rw [hsome]
    refine ⟨hfound.2.1, fun hmem => hfound.2.2.1 ((htaken e hfound.2.1.1).mp hmem),
      fun e' he' hfree hne => ?_⟩
    exact hfound.2.2.2 e' he' (fun hused => hfree ((htaken e' he'.1).mpr hused)) hne

end

section

variable {R V : Type} [Field R] [LinearOrder R] [IsStrictOrderedRing R]
  {st st' : SessionSpeakerState R V}

/-- The provisional was not replaced by one of the first segments. -/
def Unused (picks : List (Option Emitted)) (i : ℕ) (e : Emitted) : Prop :=
  ∀ j < i, ∀ picked, picks[j]? = some (some picked) → picked.eventId ≠ e.eventId

theorem unused_zero (picks : List (Option Emitted)) (e : Emitted) : Unused picks 0 e :=
  fun j hj => absurd hj (Nat.not_lt_zero j)

theorem unused_succ {pick : Option Emitted} {picks : List (Option Emitted)} {i : ℕ} {e : Emitted} :
    Unused (pick :: picks) (i + 1) e
      ↔ (∀ picked ∈ pick, picked.eventId ≠ e.eventId) ∧ Unused picks i e := by
  constructor
  · intro h
    refine ⟨fun picked hpick => h 0 (Nat.succ_pos i) picked (congrArg some hpick), ?_⟩
    exact fun j hj picked hpick => h (j + 1) (Nat.succ_lt_succ hj) picked hpick
  · rintro ⟨hpick, hpicks⟩ j hj picked hpicked
    cases j with
    | zero => exact hpick picked (Option.some.inj hpicked)
    | succ j => exact hpicks j (Nat.lt_of_succ_lt_succ hj) picked hpicked

/-- **The first loop of the pass goes through the segments in order**, and each replaces
the best provisional of those whose ids no segment before it has used. -/
theorem picks_of_prepare {emitted : List Emitted} (hnonempty : ∀ e ∈ emitted, e.eventId ≠ "")
    {segments : List (TranscriptSegment R)} {used : Finset String}
    {prepared : List (TranscriptSegment R × Option String)}
    (h : prepare emitted used segments st = (.ok prepared, st')) :
    ∃ picks : List (Option Emitted), picks.length = segments.length
      ∧ prepared = segments.zip (picks.map (Option.map Emitted.eventId))
      ∧ ∀ (i : ℕ) segment, segments[i]? = some segment → ∃ pick, picks[i]? = some pick
        ∧ Best (MayReplace emitted segment) (WouldRather emitted segment)
          {e | e.eventId ∈ used ∨ ¬ Unused picks i e} pick := by
  induction segments generalizing used prepared st with
  | nil =>
    cases h
    exact ⟨[], rfl, rfl, fun i segment hsegment => by simp at hsegment⟩
  | cons segment segments ih =>
    have hsame : ∀ e ∈ emitted, e ∈ {e : Emitted | e.eventId ∈ used} ↔ e.eventId ∈ used :=
      fun _ _ => Iff.rfl
    obtain ⟨pick, hpick, hbest⟩ := best_supersededEventId emitted segment used hsame
    -- what the segment uses is used for those after it
    have hused : ∃ rest s₁ used', prepare emitted used' segments s₁ = (.ok rest, st')
        ∧ prepared = (segment, pick.map Emitted.eventId) :: rest
        ∧ ∀ e : Emitted, e.eventId ∈ used'
          ↔ e.eventId ∈ used ∨ ¬ ∀ picked ∈ pick, picked.eventId ≠ e.eventId := by
      unfold prepare at h
      dsimp only at h
      rw [hpick] at h
      cases pick with
      | none =>
        obtain ⟨rest, s₁, hrest, hok⟩ := bind_eq_ok.mp (h : _ = (Except.ok prepared, st'))
        cases hok
        have hnone : ∀ e : Emitted, ∀ picked ∈ (none : Option Emitted),
            picked.eventId ≠ e.eventId :=
          fun _ picked hpicked => absurd hpicked (Option.not_mem_none picked)
        exact ⟨rest, st, used, hrest, rfl, fun e => (or_iff_left (not_not.mpr (hnone e))).symm⟩
      | some picked =>
        have htruthy : truthy (some picked.eventId) = true := by
          simpa [truthy] using hnonempty picked hbest.1.1
        rw [Option.map_some, if_pos htruthy] at h
        obtain ⟨_, s₁, -, h⟩ := bind_eq_ok.mp h
        obtain ⟨rest, s₂, hrest, hok⟩ := bind_eq_ok.mp h
        cases hok
        refine ⟨rest, s₁, _, hrest, rfl, fun e => ?_⟩
        simp [or_comm, eq_comm]
    obtain ⟨rest, s₁, used', hrest, rfl, hused'⟩ := hused
    obtain ⟨picks, hlength, rfl, hpicks⟩ := ih hrest
    refine ⟨pick :: picks, congrArg (· + 1) hlength, rfl, fun i segment' hsegment => ?_⟩
    cases i with
    | zero =>
      cases hsegment
      refine ⟨pick, rfl, hbest.congr (fun e _ => ?_)⟩
      exact (or_iff_left (not_not.mpr (unused_zero _ e))).symm
    | succ i =>
      obtain ⟨pick', hpick', hbest'⟩ := hpicks i segment' hsegment
      refine ⟨pick', hpick', hbest'.congr (fun e _ => ?_)⟩
      show e.eventId ∈ used' ∨ _ ↔ e.eventId ∈ used ∨ _
      rw [unused_succ, hused', not_and_or, or_assoc]

/-- **The first loop of the pass is a serial choice** of the segments among the
provisionals. -/
theorem serial_prepare {emitted : List Emitted} (hids : (emitted.map Emitted.eventId).Nodup)
    (hnonempty : ∀ e ∈ emitted, e.eventId ≠ "") {segments : List (TranscriptSegment R)}
    {used : Finset String} {taken : Set Emitted}
    (htaken : ∀ e ∈ emitted, e ∈ taken ↔ e.eventId ∈ used)
    {prepared : List (TranscriptSegment R × Option String)}
    (h : prepare emitted used segments st = (.ok prepared, st')) :
    ∃ picks, Serial (MayReplace emitted) (WouldRather emitted) taken segments picks
      ∧ prepared = segments.zip (picks.map (Option.map Emitted.eventId)) := by
  obtain ⟨picks, hlength, hprepared, hpicks⟩ := picks_of_prepare hnonempty h
  refine ⟨picks, Serial.of_best hlength (fun i segment hsegment => ?_), hprepared⟩
  obtain ⟨pick, hpick, hbest⟩ := hpicks i segment hsegment
  refine ⟨pick, hpick, hbest.congr (fun e he => ?_)⟩
  show e.eventId ∈ used ∨ _ ↔ e ∈ taken ∨ _
  rw [htaken e he.1]
  refine or_congr_right ⟨fun hnot => ?_, ?_⟩
  · unfold Unused at hnot
    push Not at hnot
    obtain ⟨j, hj, picked, hpicked, hid⟩ := hnot
    have hlt : j < segments.length :=
      hlength ▸ (List.getElem?_eq_some_iff.mp hpicked).1
    obtain ⟨_, hpick', hbest'⟩ := hpicks j segments[j] (List.getElem?_eq_getElem hlt)
    obtain rfl := Option.some.inj (hpick'.symm.trans hpicked)
    -- ids tell the provisionals apart
    obtain rfl := List.inj_on_of_nodup_map hids hbest'.1.1 he.1 hid
    exact ⟨j, hj, hpicked⟩
  · rintro ⟨j, hj, hpicked⟩ hunused
    exact hunused j hj e hpicked rfl

end

end StreamingSession

end Sastt
