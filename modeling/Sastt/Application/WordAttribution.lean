import Sastt.Application.Fusion
import Sastt.Lib.RunningBest

/-!
# Who said a word

A word outside an overlap goes to the speaker of the turn that it overlaps most. The turns
are gone through once, whoever is best so far being kept (`attributedTurn`); a turn that
overlaps the word as much as the best one takes over only if its speaker also spoke the
word before.

So the answer is the speaker of one of the turns of longest overlap, and it is the speaker
of the word before if that speaker has such a turn. Which of several such turns it is
depends on their order, but not whose, as soon as they all are of one speaker or one is of
the speaker of the word before.
-/

namespace Sastt

open Method

variable {R V : Type} [Field R] [LinearOrder R] [IsStrictOrderedRing R] [AddCommGroup V]
  [Module R V] [EmbeddingSpace R V]

namespace FusionEngine

section Turns

variable (st : SessionSpeakerState R V) (word : Word R) (previous : Option String)

/-- Whose turn it is, by the id of the active speaker of its cluster. -/
def turnSpeakerId (turn : SpeakerTurn R) : Option String :=
  (st.byCluster turn.clusterId).map (fun s => s.sessionSpeakerId)

/-- How long a turn overlaps a word. -/
def turnOverlap (turn : SpeakerTurn R) : ℕ := turn.interval.intersectionMs word.interval

/-- A turn of the speaker of the word before, if there is one. -/
def Continues (turn : SpeakerTurn R) : Prop :=
  previous.isSome ∧ turnSpeakerId st turn = previous

instance : DecidablePred (Continues st previous) :=
  fun turn => inferInstanceAs (Decidable (_ ∧ turnSpeakerId st turn = previous))

/-- The turn a word is attributed to, and how long it overlaps the word. -/
def attributedTurn (turns : List (SpeakerTurn R)) : Option (SpeakerTurn R) × ℕ :=
  turns.foldl (keepBest (turnOverlap word) (Continues st previous)) (none, ⊥)

end Turns

section

omit [AddCommGroup V] [Module R V] [EmbeddingSpace R V]

/-- The loop keeps the cluster of a turn, where it could keep the turn. -/
theorem betterTurn_map (st : SessionSpeakerState R V) (word : Word R) (previous : Option String)
    (best : Option (SpeakerTurn R) × ℕ) (turn : SpeakerTurn R) :
    betterTurn st word previous (best.map (Option.map (fun turn => turn.clusterId)) id) turn
      = (keepBest (turnOverlap word) (Continues st previous) best turn).map
        (Option.map (fun turn => turn.clusterId)) id := by
  show (if turnOverlap word turn = 0 then _
    else if best.2 < turnOverlap word turn then _
    else if turnOverlap word turn = best.2 ∧ Continues st previous turn then _
    else _) = Prod.map _ _ (if turnOverlap word turn = 0 then _
    else if best.2 < turnOverlap word turn then _
    else if turnOverlap word turn = best.2 ∧ Continues st previous turn then _
    else _)
  split_ifs <;> rfl

/-- The cluster that the loop ends with is that of the attributed turn. -/
theorem foldl_betterTurn (st : SessionSpeakerState R V) (word : Word R)
    (previous : Option String) (turns : List (SpeakerTurn R)) :
    turns.foldl (betterTurn st word previous) (none, 0)
      = (attributedTurn st word previous turns).map (Option.map (fun turn => turn.clusterId))
        id := by
  unfold attributedTurn
  induction turns using List.reverseRecOn with
  | nil => rfl
  | append_singleton turns turn ih =>
    simp only [List.foldl_append, List.foldl_cons, List.foldl_nil, ih]
    exact betterTurn_map st word previous _ turn

/-- What the loop has found when it ends. -/
theorem runningBest_attributedTurn (st : SessionSpeakerState R V) (word : Word R)
    (previous : Option String) (turns : List (SpeakerTurn R)) :
    RunningBest (turnOverlap word) (Continues st previous) turns
      (attributedTurn st word previous turns) :=
  RunningBest.foldl turns

/-- The speaker of a cluster that has one is looked up, and nobody is created. -/
theorem ensureClusterSpeaker_of_some {st : SessionSpeakerState R V}
    {speaker : SessionSpeaker R V} {ulid clusterId : String}
    (h : st.byCluster clusterId = some speaker) :
    SessionSpeakerState.ensureClusterSpeaker ulid clusterId st = (.ok speaker, st) := by
  unfold SessionSpeakerState.ensureClusterSpeaker
  rw [read_bind, h]
  rfl

/-- **The answer is the speaker of the attributed turn**, if the clusters of all turns have
speakers. Asking changes none of them. -/
theorem attributeWord_eq {s : Session R V} (ulids : ℕ → String) (word : Word R)
    (turns : List (SpeakerTurn R)) (previous : Option String)
    (hturns : ∀ turn ∈ turns, (turnSpeakerId s.speakers turn).isSome) :
    ∃ t : Session R V, t.speakers = s.speakers
      ∧ attributeWord ulids word turns previous s
        = (.ok ((attributedTurn s.speakers word previous turns).1.bind
            (turnSpeakerId s.speakers)), t) := by
  have hbest := runningBest_attributedTurn s.speakers word previous turns
  unfold attributeWord
  rw [read_bind, foldl_betterTurn, Prod.map_fst]
  cases hfound : (attributedTurn s.speakers word previous turns).1 with
  | none => exact ⟨s, rfl, rfl⟩
  | some turn =>
    have hsome := hturns turn (hbest.found turn hfound).1
    rw [turnSpeakerId, Option.isSome_map] at hsome
    obtain ⟨speaker, hspeaker⟩ := Option.isSome_iff_exists.mp hsome
    refine ⟨{ s with drawn := s.drawn + 1 }, rfl, ?_⟩
    have hensure : Session.onSpeakers
        (SessionSpeakerState.ensureClusterSpeaker (ulids s.drawn) turn.clusterId)
          { s with drawn := s.drawn + 1 } = (.ok speaker, { s with drawn := s.drawn + 1 }) :=
      zoom_eq (ensureClusterSpeaker_of_some hspeaker)
    show (Session.onSpeakers _ >>= _) _ = _
    rw [bind_of_ok hensure, Option.bind_some, turnSpeakerId, hspeaker]
    rfl

/-- **The attributed turn is of the speaker of the word before**, if that speaker has one of
longest overlap. -/
theorem turnSpeakerId_attributedTurn {st : SessionSpeakerState R V} {word : Word R}
    {id : String} {turns : List (SpeakerTurn R)} {turn : SpeakerTurn R}
    (hturn : IsLargest (turnOverlap word) turns turn)
    (hid : turnSpeakerId st turn = some id) :
    (attributedTurn st word (some id) turns).1.bind (turnSpeakerId st) = some id := by
  have hbest := runningBest_attributedTurn st word (some id) turns
  cases hfound : (attributedTurn st word (some id) turns).1 with
  | none => exact absurd (hbest.eq_none_iff.mp hfound turn hturn.mem) hturn.counts
  | some best =>
    exact (hbest.preferred best hfound ⟨turn, hturn.mem, hbest.key_eq hturn, rfl, hid⟩).2

/-- **The order of the turns does not matter**, up to turns of longest overlap that are of
different speakers, none of whom spoke the word before. -/
theorem bind_attributedTurn_perm {st : SessionSpeakerState R V} {word : Word R}
    {previous : Option String} {turns turns' : List (SpeakerTurn R)} (hperm : turns'.Perm turns)
    (hturns : ∀ turn ∈ turns, (turnSpeakerId st turn).isSome)
    (hone : (∀ a b, IsLargest (turnOverlap word) turns a → IsLargest (turnOverlap word) turns b →
        turnSpeakerId st a = turnSpeakerId st b)
      ∨ ∃ a, IsLargest (turnOverlap word) turns a ∧ turnSpeakerId st a = previous) :
    (attributedTurn st word previous turns').1.bind (turnSpeakerId st)
      = (attributedTurn st word previous turns).1.bind (turnSpeakerId st) := by
  have hmap : (attributedTurn st word previous turns).1.map (turnSpeakerId st)
      = (attributedTurn st word previous turns').1.map (turnSpeakerId st) := by
    refine (runningBest_attributedTurn st word previous turns).map_eq
      (runningBest_attributedTurn st word previous turns') (fun _ => hperm.mem_iff.symm)
      (fun a b ha hb => ha.2.trans hb.2.symm) (hone.imp_right ?_)
    rintro ⟨a, ha, howner⟩
    exact ⟨a, ha, howner ▸ hturns a ha.mem, howner⟩
  simpa [Option.bind_map] using (congrArg (fun found => found.bind id) hmap).symm

/-- **Who said a word**, if the clusters of all turns have speakers: nobody exactly if no
turn overlaps the word, else the speaker of a turn of longest overlap, and the speaker of
the word before if one of those turns is theirs. -/
theorem attributeWord_longest (ulids : ℕ → String) (s : Session R V) (word : Word R)
    (turns : List (SpeakerTurn R)) (previous : Option String)
    (hturns : ∀ turn ∈ turns, (turnSpeakerId s.speakers turn).isSome) :
    ∃ (answer : Option String) (t : Session R V), t.speakers = s.speakers
      ∧ attributeWord ulids word turns previous s = (.ok answer, t)
      ∧ (answer = none ↔ ∀ turn ∈ turns, turnOverlap word turn = 0)
      ∧ (∀ id ∈ answer, ∃ turn, IsLargest (turnOverlap word) turns turn
        ∧ turnSpeakerId s.speakers turn = some id)
      ∧ (∀ id ∈ previous, (∃ turn, IsLargest (turnOverlap word) turns turn
        ∧ turnSpeakerId s.speakers turn = some id) → answer = some id)
      ∧ ∀ turns' : List (SpeakerTurn R), turns'.Perm turns →
        ((∀ a b, IsLargest (turnOverlap word) turns a → IsLargest (turnOverlap word) turns b →
            turnSpeakerId s.speakers a = turnSpeakerId s.speakers b)
          ∨ ∃ a, IsLargest (turnOverlap word) turns a
            ∧ turnSpeakerId s.speakers a = previous) →
        ∃ t' : Session R V, t'.speakers = s.speakers
          ∧ attributeWord ulids word turns' previous s = (.ok answer, t') := by
  have hbest := runningBest_attributedTurn s.speakers word previous turns
  obtain ⟨t, hspeakers, hanswer⟩ := attributeWord_eq ulids word turns previous hturns
  refine ⟨_, t, hspeakers, hanswer, ?_, ?_, ?_, ?_⟩
  · rw [← Nat.bot_eq_zero, ← hbest.eq_none_iff, Option.bind_eq_none_iff]
    constructor
    · intro hnone
      refine Option.eq_none_iff_forall_ne_some.mpr (fun turn hturn => ?_)
      have hsome := hturns turn (hbest.found turn hturn).1
      rw [hnone turn hturn] at hsome
      exact Bool.noConfusion hsome
    · intro hnone turn hturn
      exact nomatch hnone.symm.trans hturn
  · intro id hid
    obtain ⟨turn, hturn, howner⟩ := Option.bind_eq_some_iff.mp hid
    exact ⟨turn, hbest.isLargest hturn, howner⟩
  · rintro id rfl ⟨turn, hturn, howner⟩
    exact turnSpeakerId_attributedTurn hturn howner
  · intro turns' hperm hone
    obtain ⟨t', hspeakers', hanswer'⟩ := attributeWord_eq ulids word turns' previous
      (fun turn hturn => hturns turn (hperm.mem_iff.mp hturn))
    exact ⟨t', hspeakers', hanswer'.trans
      (congrArg (fun answer => (Except.ok answer, t'))
        (bind_attributedTurn_perm hperm hturns hone))⟩

end

section Example

/-- Two people, whose turns change in the middle of a word. -/
def tiedSession : Session ℚ ℚ where
  speakers := (SessionSpeakerState.ensureClusterSpeaker "2" "B"
    (SessionSpeakerState.ensureClusterSpeaker "1" "A" (.new "session" {} "model")).2).2

/-- The word. -/
def tiedWord : Word ℚ := .heard "okay" 100 300 none

/-- The turns. -/
def tiedTurns : List (SpeakerTurn ℚ) := [
  { clusterId := "A", interval := firstMs 200 },
  { clusterId := "B", interval := ⟨200, 400, by decide⟩ }]

/-- The word goes to who spoke before. -/
theorem attributeWord_longest_tied :
    ∃ t : Session ℚ ℚ, attributeWord toString tiedWord tiedTurns (some "sess_spk_2") tiedSession
      = (.ok (some "sess_spk_2"), t) := by
  obtain ⟨answer, t, -, hanswer, -, -, hprevious, -⟩ := attributeWord_longest toString
    tiedSession tiedWord tiedTurns (some "sess_spk_2") (by decide +kernel)
  refine ⟨t, ?_⟩
  rw [hanswer, hprevious "sess_spk_2" rfl ⟨{ clusterId := "B", interval := ⟨200, 400, by decide⟩ },
    ⟨by simp [tiedTurns], by decide, ?_⟩, by decide +kernel⟩]
  simp only [tiedTurns, List.mem_cons, List.not_mem_nil, or_false, forall_eq_or_imp, forall_eq]
  decide

end Example

end FusionEngine

end Sastt
