import Sastt.Application.FusionMethods
import Sastt.Application.SessionRuns
import Sastt.Lib.Runs

/-!
# The words of a transcript

Fusion goes through the words of each group once, finds out whose they are and
cuts them into utterances as it goes. The two can be told apart: first every
word of a group is attributed to a canonical speaker, each knowing who spoke
before it (`attributeGroup`), and then the words with their speakers are cut
into runs (`coalesceWords_eq`), at a change of speaker, after a long pause, and
after the end of a sentence (`breaks`).

A segment is one of these runs, with the provenance of its group. So what is
spoken is what is published: every word is in one segment, once, and in no
segment are words of two groups or of two speakers (`fuse_keeps_words`). The
conservation check has nothing to find.
-/

namespace Sastt

open Method SessionSpeakerState

variable {R V : Type} [Field R] [LinearOrder R] [IsStrictOrderedRing R] [AddCommGroup V]
  [Module R V] [EmbeddingSpace R V]

/-- A group with the speakers of its words. -/
structure AttributedGroup (R : Type) where
  group : WordGroup R
  words : List (Word R × String)

namespace FusionEngine

/-! ## Attribution, without the utterances -/

/-- The canonical speaker of a word. -/
def canonicalSpeaker (ulids : ℕ → String) (group : WordGroup R) (turns : List (SpeakerTurn R))
    (word : Word R) (previous : Option String) : Method PyError (Session R V) String := do
  let speakerId ← wordSpeaker ulids group turns word previous
  let s ← .read
  let speaker ← .ofExcept (s.speakers.get speakerId)
  return speaker.sessionSpeakerId

/-- The words of a group, one after the other, each with its speaker. -/
def attributeWords (ulids : ℕ → String) (group : WordGroup R) (turns : List (SpeakerTurn R))
    (previous : Option String) :
    List (Word R) → Method PyError (Session R V) (List (Word R × String))
  | [] => return []
  | word :: words => do
    let speakerId ← canonicalSpeaker ulids group turns word previous
    let rest ← attributeWords ulids group turns (some speakerId) words
    return (word, speakerId) :: rest

/-- **The words of a group in the order of their times, each with its
speaker.** -/
def attributeGroup (ulids : ℕ → String) (turns : List (SpeakerTurn R)) (group : WordGroup R) :
    Method PyError (Session R V) (AttributedGroup R) := do
  let words ← attributeWords ulids group turns none (group.words.insertionSort Word.le)
  return { group, words }

/-- **Whether there is a break** between the words of an utterance and the next
word: the speaker changes, the pause since its end is too long, or its last word
ends a sentence. -/
def breaks (maxPauseMs : ℕ) (spoken : List (Word R × String)) (next : Word R × String) : Bool :=
  (spoken.getLast?.map Prod.snd != some next.2)
    || decide ((spoken.map (fun x => x.1.endMs)).max?.getD 0 + maxPauseMs < next.1.startMs)
    || spoken.getLast?.any (fun x => endsSentence x.1.text)

end FusionEngine

/-- The words of an utterance with its speaker. -/
def Utterance.spoken (u : Utterance R) : List (Word R × String) :=
  u.words.map (fun word => (word, u.speakerId))

namespace FusionEngine

section Attribution

variable {engine : FusionEngine R} {ulids : ℕ → String} {group : WordGroup R}
  {turns : List (SpeakerTurn R)} {s s' : Session R V}

omit [Field R] [LinearOrder R] [IsStrictOrderedRing R] in
theorem spoken_add (u : Utterance R) (word : Word R) :
    (u.add word).spoken = u.spoken ++ [(word, u.speakerId)] := List.map_append

omit [Field R] [LinearOrder R] [IsStrictOrderedRing R] in
/-- **An utterance goes on exactly when there is no break.** -/
theorem continues_eq (u : Utterance R) (speakerId : String) (word : Word R) (maxPauseMs : ℕ) :
    u.continues speakerId word maxPauseMs = !breaks maxPauseMs u.spoken (word, speakerId) := by
  have hlast : u.spoken.getLast? = some (u.words.getLast u.words_ne_nil, u.speakerId) := by
    unfold Utterance.spoken
    rw [List.getLast?_map, List.getLast?_eq_getLast_of_ne_nil u.words_ne_nil]
    rfl
  have hend : (u.spoken.map (fun x => x.1.endMs)).max?.getD 0 = u.endMs := by
    unfold Utterance.spoken Utterance.endMs
    rw [List.map_map]
    rfl
  have hpause : decide ((word.startMs : ℤ) - u.endMs ≤ maxPauseMs)
      = !decide (u.endMs + maxPauseMs < word.startMs) := by
    rw [← decide_not]
    refine decide_eq_decide.mpr ?_
    omega
  unfold Utterance.continues breaks
  rw [hlast, hend, hpause]
  simp only [Option.map_some, Option.any_some, Bool.not_or, bne, Bool.not_not]
  congr 2

omit [AddCommGroup V] [Module R V] [EmbeddingSpace R V] in
/-- **Coalescing is attribution and cutting.** -/
theorem coalesceWords_eq {words : List (Word R)} {previous : Option String}
    {current : Option (Utterance R)} {us : List (Utterance R)}
    (hcurrent : ∀ u ∈ current, u.group = group)
    (hok : engine.coalesceWords ulids group turns previous current words s = (.ok us, s')) :
    ∃ attributed, attributeWords ulids group turns previous words s = (.ok attributed, s')
      ∧ attributed.map Prod.fst = words ∧ (∀ u ∈ us, u.group = group)
      ∧ us.map Utterance.spoken = current.elim (Runs.of (breaks engine.maxPauseMs) attributed)
        (fun u => Runs.cut (breaks engine.maxPauseMs) u.spoken attributed) := by
  induction words generalizing s previous current us with
  | nil =>
    cases hok
    refine ⟨[], rfl, rfl, fun u hu => hcurrent u (Option.mem_toList.mp hu), ?_⟩
    cases current <;> rfl
  | cons word words ih =>
    obtain ⟨id, s₁, hword, hok⟩ := bind_eq_ok.mp hok
    rw [read_bind] at hok
    obtain ⟨speaker, s₂, hget, hok⟩ := bind_eq_ok.mp hok
    obtain ⟨hspeaker, rfl⟩ := ofExcept_eq_ok.mp hget
    have hcanonical : canonicalSpeaker ulids group turns word previous s
        = (.ok speaker.sessionSpeakerId, s₁) := by
      unfold canonicalSpeaker
      rw [bind_of_ok hword, read_bind, hspeaker]
      rfl
    have hattributes : ∀ {attributed : List (Word R × String)},
        attributeWords ulids group turns (some speaker.sessionSpeakerId) words s₁
          = (.ok attributed, s') →
        attributeWords ulids group turns previous (word :: words) s
          = (.ok ((word, speaker.sessionSpeakerId) :: attributed), s') := by
      intro attributed hrest
      unfold attributeWords
      rw [bind_of_ok hcanonical, bind_of_ok hrest]
      rfl
    cases hf : current.filter
        (fun u => u.continues speaker.sessionSpeakerId word engine.maxPauseMs) with
    | some u =>
      simp only [hf] at hok
      have hgroup : (u.add word).group = group :=
        hcurrent u (Option.filter_eq_some_iff.mp hf).1
      obtain ⟨attributed, hrest, hwords, hgroups, hspoken⟩ :=
        ih (fun u' hu' => by cases hu'; exact hgroup) hok
      obtain ⟨rfl, hcontinues⟩ := Option.filter_eq_some_iff.mp hf
      refine ⟨_, hattributes hrest, by rw [List.map_cons, hwords], hgroups, ?_⟩
      rw [hspoken]
      have hsame : u.speakerId = speaker.sessionSpeakerId := by
        unfold Utterance.continues at hcontinues
        simp only [Bool.and_eq_true, beq_iff_eq] at hcontinues
        exact hcontinues.1.1
      rw [continues_eq, Bool.not_eq_true'] at hcontinues
      show Runs.cut _ (u.add word).spoken attributed
        = Runs.cut _ u.spoken ((word, speaker.sessionSpeakerId) :: attributed)
      rw [Runs.cut, hcontinues, spoken_add, hsame]
      rfl
    | none =>
      simp only [hf] at hok
      obtain ⟨rest, s₃, hrest, hok⟩ := bind_eq_ok.mp hok
      cases hok
      obtain ⟨attributed, hrest, hwords, hgroups, hspoken⟩ :=
        ih (fun u hu => by cases hu; rfl) hrest
      refine ⟨_, hattributes hrest, by rw [List.map_cons, hwords], fun u hu => ?_, ?_⟩
      · exact (List.mem_append.mp hu).elim (fun hu => hcurrent u (Option.mem_toList.mp hu))
          (hgroups u)
      rw [List.map_append, hspoken]
      cases current with
      | none => rfl
      | some u =>
        -- a break: the utterance ends
        have hbreak : u.continues speaker.sessionSpeakerId word engine.maxPauseMs = false := by
          rw [Option.filter_some] at hf
          split at hf
          · cases hf
          · next hno => exact Bool.eq_false_iff.mpr hno
        rw [continues_eq, Bool.not_eq_false'] at hbreak
        show [u.spoken] ++ Runs.cut _ [(word, speaker.sessionSpeakerId)] attributed
          = Runs.cut _ u.spoken ((word, speaker.sessionSpeakerId) :: attributed)
        rw [Runs.cut, hbreak]
        rfl

/-- The utterances of a group are the runs of its words. -/
structure Coalesced (maxPauseMs : ℕ) (a : AttributedGroup R) (us : List (Utterance R)) : Prop where
  words : a.words.map Prod.fst = a.group.words.insertionSort Word.le
  group : ∀ u ∈ us, u.group = a.group
  spoken : us.map Utterance.spoken = Runs.of (breaks maxPauseMs) a.words

omit [AddCommGroup V] [Module R V] [EmbeddingSpace R V] in
/-- All groups are coalesced that way. -/
theorem coalesceGroups_eq {groups : List (WordGroup R)} {uss : List (List (Utterance R))}
    (hok : mapEach groups (fun group => engine.coalesceWords ulids group turns none none
      (group.words.insertionSort Word.le)) s = (.ok uss, s')) :
    ∃ attributed, mapEach groups (attributeGroup ulids turns) s = (.ok attributed, s')
      ∧ attributed.map AttributedGroup.group = groups
      ∧ List.Forall₂ (Coalesced engine.maxPauseMs) attributed uss := by
  induction groups generalizing s uss with
  | nil =>
    cases hok
    exact ⟨[], rfl, rfl, List.Forall₂.nil⟩
  | cons group groups ih =>
    obtain ⟨us, s₁, hus, hok⟩ := bind_eq_ok.mp hok
    obtain ⟨uss, s₂, huss, hok⟩ := bind_eq_ok.mp hok
    cases hok
    obtain ⟨words, hattribute, hwords, hgroup', hspoken⟩ :=
      coalesceWords_eq (fun _ hu => absurd hu (Option.not_mem_none _)) hus
    obtain ⟨attributed, hrest, hgroups, hall⟩ := ih huss
    have hgroup : attributeGroup ulids turns group s = (.ok { group, words }, s₁) := by
      unfold attributeGroup
      rw [bind_of_ok hattribute]
      rfl
    refine ⟨{ group, words } :: attributed, ?_, by rw [List.map_cons, hgroups],
      List.Forall₂.cons ⟨hwords, hgroup', hspoken⟩ hall⟩
    rw [mapEach, bind_of_ok hgroup, bind_of_ok hrest]
    rfl

/-! ## Segments -/

/-- **What a segment takes from its utterance.** -/
structure TakenFrom (u : Utterance R) (seg : TranscriptSegment R) : Prop where
  words : seg.words = u.words
  startMs : seg.startMs = u.startMs
  endMs : seg.endMs = u.endMs
  isOverlap : seg.isOverlap = u.group.isOverlap
  track : seg.sourceTrack = u.group.sourceTrack
  backend : seg.separationBackend = u.group.separationBackend
  count : seg.estimatedConcurrentSpeakers = u.group.estimatedConcurrentSpeakers
  countConfidence : seg.countConfidence = u.group.countConfidence
  flags : seg.qualityFlags = u.group.qualityFlags

omit [AddCommGroup V] [Module R V] [EmbeddingSpace R V] in
theorem returns_segmentOf (engine : FusionEngine R) (ulids : ℕ → String) (isFinal : Bool)
    (revision : ℕ) (supersedes : Option String) (u : Utterance R) :
    Returns (TakenFrom u) (engine.segmentOf (V := V) ulids isFinal revision supersedes u) := by
  intro s seg s' hok
  unfold segmentOf at hok
  rw [read_bind] at hok
  obtain ⟨speaker, s₁, -, hok⟩ := bind_eq_ok.mp hok
  obtain ⟨ulid, s₂, -, hok⟩ := bind_eq_ok.mp hok
  obtain ⟨hnew, -⟩ := ofExcept_eq_ok.mp hok
  have hfields := TranscriptSegment.new_eq_ok hnew
  constructor <;> rw [hfields]

omit [IsStrictOrderedRing R] in
/-- The words of the segments are those of the utterances, and these are those
of the groups. -/
theorem perm_words {attributed : List (AttributedGroup R)} {uss : List (List (Utterance R))}
    (h : List.Forall₂ (Coalesced engine.maxPauseMs) attributed uss) :
    (uss.flatten.flatMap Utterance.words).Perm
      (attributed.flatMap (fun a => a.group.words)) := by
  induction h with
  | nil => exact List.Perm.refl _
  | @cons a us attributed uss hone hrest ih =>
    rw [List.flatten_cons, List.flatMap_append, List.flatMap_cons]
    refine List.Perm.append ?_ ih
    have hspoken : us.flatMap Utterance.spoken = a.words := by
      rw [List.flatMap_def, hone.spoken, (Runs.isCut_of _ a.words).flatten]
    have hwords : us.flatMap Utterance.words = a.words.map Prod.fst := by
      rw [← hspoken, List.map_flatMap]
      refine List.flatMap_congr (fun u _ => ?_)
      unfold Utterance.spoken
      rw [List.map_map]
      exact (List.map_id _).symm
    rw [hwords, hone.words]
    exact List.perm_insertionSort _ _

end Attribution

/-! ## Fusion -/

/-- **The segments of a group**: the runs of its words between the breaks, each
with one speaker, from the start of its first word to the end of its last, and
with the provenance of the group. -/
structure FusedFrom (maxPauseMs : ℕ) (a : AttributedGroup R)
    (segments : List (TranscriptSegment R)) : Prop where
  words : a.words.map Prod.fst = a.group.words.insertionSort Word.le
  cut : IsCut (breaks maxPauseMs) a.words
    (segments.map (fun seg => seg.words.map (fun word => (word, seg.sessionSpeakerId))))
  times : ∀ seg ∈ segments, (seg.words.map Word.startMs).min? = some seg.startMs
    ∧ (seg.words.map Word.endMs).max? = some seg.endMs
  provenance : ∀ seg ∈ segments, seg.isOverlap = a.group.isOverlap
    ∧ seg.sourceTrack = a.group.sourceTrack ∧ seg.separationBackend = a.group.separationBackend
    ∧ seg.estimatedConcurrentSpeakers = a.group.estimatedConcurrentSpeakers
    ∧ seg.countConfidence = a.group.countConfidence ∧ seg.qualityFlags = a.group.qualityFlags

section Fusion

variable {engine : FusionEngine R} {ulids : ℕ → String} {turns : List (SpeakerTurn R)}
  {s s' : Session R V}

section

omit [IsStrictOrderedRing R]

/-- The times of a segment are those of its words. -/
theorem TakenFrom.times {u : Utterance R} {seg : TranscriptSegment R} (h : TakenFrom u seg) :
    (seg.words.map Word.startMs).min? = some seg.startMs
      ∧ (seg.words.map Word.endMs).max? = some seg.endMs := by
  have hstart : u.words.map Word.startMs ≠ [] := fun h => u.words_ne_nil (List.map_eq_nil_iff.mp h)
  have hend : u.words.map Word.endMs ≠ [] := fun h => u.words_ne_nil (List.map_eq_nil_iff.mp h)
  rw [h.words, h.startMs, h.endMs]
  unfold Utterance.startMs Utterance.endMs
  constructor
  · rcases hmin : (u.words.map Word.startMs).min? with _ | m
    · exact absurd (List.min?_eq_none_iff.mp hmin) hstart
    · rfl
  · rcases hmax : (u.words.map Word.endMs).max? with _ | m
    · exact absurd (List.max?_eq_none_iff.mp hmax) hend
    · rfl

/-- Segments that are taken from utterances have their words. -/
theorem flatMap_words {us : List (Utterance R)} {segments : List (TranscriptSegment R)}
    (h : List.Forall₂ TakenFrom us segments) :
    segments.flatMap (fun seg => seg.words) = us.flatMap Utterance.words := by
  induction h with
  | nil => rfl
  | cons hone hrest ih => rw [List.flatMap_cons, List.flatMap_cons, hone.words, ih]

/-- **The conservation check passes** where no word is lost. -/
theorem assertConcurrencyPreserved_of_perm {groups : List (WordGroup R)}
    {segments : List (TranscriptSegment R)}
    (h : (segments.flatMap (fun seg => seg.words)).Perm (groups.flatMap WordGroup.words)) :
    assertConcurrencyPreserved groups segments = .ok () := by
  have hlength := h.length_eq
  rw [List.length_flatMap, List.length_flatMap] at hlength
  exact if_neg (not_not.mpr hlength)

end

omit [AddCommGroup V] [Module R V] [EmbeddingSpace R V] in
/-- Coalescing all groups, and then reading a segment off each utterance, loses
no word. -/
theorem perm_of_coalesce {groups : List (WordGroup R)} {us : List (Utterance R)}
    {segments : List (TranscriptSegment R)}
    (hok : engine.coalesce ulids groups turns s = (.ok us, s'))
    (htaken : List.Forall₂ TakenFrom us segments) :
    (segments.flatMap (fun seg => seg.words)).Perm (groups.flatMap WordGroup.words) := by
  obtain ⟨uss, s₁, huss, hok⟩ := bind_eq_ok.mp hok
  cases hok
  obtain ⟨attributed, -, hgroups, hall⟩ := coalesceGroups_eq huss
  rw [flatMap_words htaken, ← hgroups, List.flatMap_map]
  exact perm_words hall

omit [IsStrictOrderedRing R] in
/-- **The segments of one group.** -/
theorem fusedFrom_of_taken {a : AttributedGroup R} {us : List (Utterance R)}
    {segments : List (TranscriptSegment R)} (h : Coalesced engine.maxPauseMs a us)
    (htaken : List.Forall₂ (fun u seg => TakenFrom u seg ∧ seg.sessionSpeakerId = u.speakerId) us
      segments) : FusedFrom engine.maxPauseMs a segments := by
  have hspoken : us.map Utterance.spoken
      = segments.map (fun seg => seg.words.map (fun word => (word, seg.sessionSpeakerId))) := by
    clear h
    induction htaken with
    | nil => rfl
    | cons hone hrest ih =>
      rw [List.map_cons, List.map_cons, ih, hone.1.words, hone.2]
      rfl
  have hfrom : ∀ seg ∈ segments, ∃ u ∈ us, TakenFrom u seg := by
    intro seg hseg
    obtain ⟨u, hu, hone, -⟩ := exists_of_forall₂ htaken hseg
    exact ⟨u, hu, hone⟩
  refine ⟨h.words, ?_, fun seg hseg => ?_, fun seg hseg => ?_⟩
  · rw [← hspoken, h.spoken]
    exact Runs.isCut_of _ a.words
  · obtain ⟨u, -, hu⟩ := hfrom seg hseg
    exact hu.times
  · obtain ⟨u, hmem, hu⟩ := hfrom seg hseg
    rw [← h.group u hmem]
    exact ⟨hu.isOverlap, hu.track, hu.backend, hu.count, hu.countConfidence, hu.flags⟩

omit [IsStrictOrderedRing R] in
/-- **The segments, group by group.** -/
theorem exists_parts {attributed : List (AttributedGroup R)} {uss : List (List (Utterance R))}
    {segments : List (TranscriptSegment R)}
    (h : List.Forall₂ (Coalesced engine.maxPauseMs) attributed uss)
    (htaken : List.Forall₂ (fun u seg => TakenFrom u seg ∧ seg.sessionSpeakerId = u.speakerId)
      uss.flatten segments) :
    ∃ parts, segments = parts.flatten
      ∧ List.Forall₂ (FusedFrom engine.maxPauseMs) attributed parts := by
  induction h generalizing segments with
  | nil =>
    cases htaken
    exact ⟨[], rfl, List.Forall₂.nil⟩
  | @cons a us attributed uss hone hrest ih =>
    rw [List.flatten_cons] at htaken
    have hflip := htaken.flip
    obtain ⟨parts, hparts, hall⟩ := ih (List.forall₂_drop_append segments us uss.flatten hflip).flip
    refine ⟨segments.take us.length :: parts, ?_, List.Forall₂.cons ?_ hall⟩
    · rw [List.flatten_cons, ← hparts, List.take_append_drop]
    · exact fusedFrom_of_taken hone
        (List.forall₂_take_append segments us uss.flatten hflip).flip

/-- **Fusion keeps every word, once, under one speaker**, and its conservation
check never raises. -/
theorem fuse_keeps_words (engine : FusionEngine R) (ulids : ℕ → String)
    (groups : List (WordGroup R)) (turns : List (SpeakerTurn R)) (isFinal : Bool) (revision : ℕ)
    (supersedes : Option String) {s : Session R V} (h : s.speakers.Reachable) :
    (∀ us s₁ segments s₂, engine.coalesce ulids groups turns s = (.ok us, s₁) →
      mapEach us (engine.segmentOf ulids isFinal revision supersedes) s₁ = (.ok segments, s₂) →
      assertConcurrencyPreserved groups segments = .ok ())
    ∧ ∀ segments s', engine.fuse ulids groups turns isFinal revision supersedes s
        = (.ok segments, s') →
      (segments.flatMap (fun seg => seg.words)).Perm (groups.flatMap WordGroup.words)
      ∧ ∃ attributed s₁ parts, mapEach groups (attributeGroup ulids turns) s = (.ok attributed, s₁)
        ∧ attributed.map AttributedGroup.group = groups ∧ segments = parts.flatten
        ∧ List.Forall₂ (FusedFrom engine.maxPauseMs) attributed parts := by
  have htakes : ∀ {us s₁ segments s₂},
      mapEach us (engine.segmentOf ulids isFinal revision supersedes) (s₁ : Session R V)
        = (.ok segments, s₂) → List.Forall₂ TakenFrom us segments := fun hsegments =>
    returns_mapEach (fun u _ => returns_segmentOf engine ulids isFinal revision supersedes u) _ _ _
      hsegments
  constructor
  · intro us s₁ segments s₂ hus hsegments
    exact assertConcurrencyPreserved_of_perm (perm_of_coalesce hus (htakes hsegments))
  · intro segments s' hok
    obtain ⟨us, s₁, hus, h₁, hsegments, hafter, hpublished⟩ := fuse_eq_ok h.wellFormed hok
    have htaken := htakes hsegments
    refine ⟨perm_of_coalesce hus htaken, ?_⟩
    have hspeakers : List.Forall₂
        (fun u seg => TakenFrom u seg ∧ seg.sessionSpeakerId = u.speakerId) us segments := by
      have hclaimed := (List.forall₂_and_left _ _).mpr
        ⟨fun u hu => (coalesce_eq_ok h.wellFormed hus u hu).2, hpublished⟩
      refine (forall₂_and htaken hclaimed).imp ?_
      rintro u seg ⟨hone, ⟨id, -, hid, -⟩, hpub⟩
      obtain ⟨h', hq, -⟩ := hafter.speakers h₁
      refine ⟨hone, ?_⟩
      rw [hpub.speaker, hq.rootOf h₁ h', hid, h₁.rootOf_rootOf]
    obtain ⟨uss, s₂, huss, hus⟩ := bind_eq_ok.mp hus
    cases hus
    obtain ⟨attributed, hattributed, hgroups, hall⟩ := coalesceGroups_eq huss
    obtain ⟨parts, hparts, hfused⟩ := exists_parts hall hspeakers
    exact ⟨attributed, _, parts, hattributed, hgroups, hparts, hfused⟩

end Fusion

section Example

/-- Two sentences of one turn, the recogniser having given the later one first. -/
def wellYes : WordGroup ℚ where
  words := [.heard "Well" 200 350 none, .heard "Yes." 50 150 none]
  interval := firstMs 400

/-- Fusing them. -/
def fuseWellYes : Except PyError (List (TranscriptSegment ℚ)) × Session ℚ ℚ :=
  (FusionEngine.new "session" {} {} none none).fuse (fun n => "ulid_" ++ toString n) [wellYes]
    [{ clusterId := "A", interval := firstMs 400 }] true 1 none
    ⟨.new "session" {} "model", 0⟩

/-- They become two segments, in the order in which they were said. -/
theorem fuse_keeps_wellYes :
    ∃ segments s', fuseWellYes = (.ok segments, s')
      ∧ segments.map (fun seg => seg.words.map (fun word => word.text)) = [["Yes."], ["Well"]]
      ∧ (segments.flatMap (fun seg => seg.words)).Perm wellYes.words := by
  have hreturns : fuseWellYes.1.isOk = true := by decide +kernel
  have htexts : fuseWellYes.1.toOption.map (fun segments =>
      segments.map (fun seg => seg.words.map (fun word => word.text)))
        = some [["Yes."], ["Well"]] := by
    decide +kernel
  obtain ⟨segments, s', hok⟩ := exists_of_isOk hreturns
  rw [hok] at htexts
  have hkeeps := (fuse_keeps_words (FusionEngine.new "session" {} {} none none)
    (fun n => "ulid_" ++ toString n) [wellYes]
    [{ clusterId := "A", interval := firstMs 400 }] true 1 none
    (s := ⟨.new "session" {} "model", 0⟩) ⟨"session", {}, "model", [], rfl⟩).2 segments s' hok
  exact ⟨segments, s', hok, Option.some_inj.mp htexts, by simpa using hkeeps.1⟩

end Example

end FusionEngine

end Sastt
