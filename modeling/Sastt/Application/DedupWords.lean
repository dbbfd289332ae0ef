import Mathlib.Algebra.Order.Group.Unbundled.Int
import Mathlib.Algebra.Order.Field.Rat
import Sastt.Domain.Transcript

/-!
# Words that are sent again

A word that comes in again, from a window that overlaps an earlier one, is dropped: its
stable id is known, or a word of the same text begins within a tolerance of it. The id tells
the source the word was heard in, so two people who say the same word over each other have two
ids. The tolerance is asked of the text and the start only, and there the second of the two
loses the word.

A word may be dropped only for an existing one of the same id, or of the same text and source
within the tolerance (`SameWord`). That is so exactly if no word has its text within the
tolerance on other sources alone (`dedupsSafely_iff`). The words that are kept stay in order,
and deduplicating them again drops none, in any case.
-/

namespace Sastt

variable {R : Type}

/-! ## Deduplication -/

/-- The ids of the words that have one. -/
def knownIds (existing : List (Word R)) : List String :=
  (existing.filterMap Word.wordId).filter (· ≠ "")

/-- A word of the same text begins within the tolerance. -/
def Near (existing : List (Word R)) (toleranceMs : ℤ) (w : Word R) : Prop :=
  ∃ other ∈ existing, other.text = w.text ∧ |(other.startMs : ℤ) - w.startMs| ≤ toleranceMs

instance (existing : List (Word R)) (toleranceMs : ℤ) (w : Word R) :
    Decidable (Near existing toleranceMs w) :=
  inferInstanceAs (Decidable (∃ other ∈ existing, _))

/-- **`dedup_words`.** -/
def dedupWords (existing : List (Word R)) (toleranceMs : ℤ) : List (Word R) → List (Word R)
  | [] => []
  | w :: incoming =>
    if truthy w.wordId ∧ w.wordId.getD "" ∈ knownIds existing then
      dedupWords existing toleranceMs incoming
    else if Near existing toleranceMs w then dedupWords existing toleranceMs incoming
    else w :: dedupWords existing toleranceMs incoming

section

variable {existing incoming : List (Word R)} {toleranceMs : ℤ}

/-- A word is dropped for its id, or for its text and start. -/
def Dropped (existing : List (Word R)) (toleranceMs : ℤ) (w : Word R) : Prop :=
  (truthy w.wordId ∧ w.wordId.getD "" ∈ knownIds existing) ∨ Near existing toleranceMs w

instance : DecidablePred (Dropped existing toleranceMs) := fun _ =>
  inferInstanceAs (Decidable (_ ∨ _))

/-- **What is kept is what is not dropped**, in order. -/
theorem dedupWords_eq_filter (incoming : List (Word R)) :
    dedupWords existing toleranceMs incoming
      = incoming.filter (fun w => ¬ Dropped existing toleranceMs w) := by
  induction incoming with
  | nil => rfl
  | cons w incoming ih =>
    unfold dedupWords
    rw [List.filter_cons, ih]
    unfold Dropped
    split
    · next hid => simp [hid]
    · next hid =>
      split
      · next hnear => simp [hid, hnear]
      · next hnear => simp [hid, hnear]

/-- **An existing word is the same**: it has the same stable id, or the same text and source and
begins within the tolerance. -/
def SameWord (existing : List (Word R)) (toleranceMs : ℤ) (w : Word R) : Prop :=
  ∃ other ∈ existing, (truthy w.wordId ∧ other.wordId = w.wordId)
    ∨ (other.text = w.text ∧ other.sourceTrack = w.sourceTrack
      ∧ |(other.startMs : ℤ) - w.startMs| ≤ toleranceMs)

instance : DecidablePred (SameWord existing toleranceMs) := fun _ =>
  inferInstanceAs (Decidable (∃ other ∈ existing, _))

/-- **Words are deduplicated safely**: one is dropped only if an existing word is the same, the
others are kept in order, and a second time drops none. -/
structure DedupsSafely (existing : List (Word R)) (toleranceMs : ℤ) (incoming : List (Word R)) :
    Prop where
  dropped : ∀ w ∈ incoming, w ∉ dedupWords existing toleranceMs incoming →
    SameWord existing toleranceMs w
  kept : (incoming.filter (fun w => ¬ SameWord existing toleranceMs w)).Sublist
    (dedupWords existing toleranceMs incoming)
  order : (dedupWords existing toleranceMs incoming).Sublist incoming
  again : dedupWords existing toleranceMs (dedupWords existing toleranceMs incoming)
    = dedupWords existing toleranceMs incoming

/-- A known id is that of an existing word. -/
theorem mem_knownIds_iff {w : Word R} (h : truthy w.wordId = true) :
    w.wordId.getD "" ∈ knownIds existing ↔ ∃ other ∈ existing, other.wordId = w.wordId := by
  cases hid : w.wordId with
  | none =>
    rw [hid] at h
    cases h
  | some id =>
    have hne : id ≠ "" := by
      rintro rfl
      rw [hid] at h
      revert h
      decide
    simp [knownIds, hne]

/-- What is the same is dropped. -/
theorem dropped_of_sameWord {w : Word R} (h : SameWord existing toleranceMs w) :
    Dropped existing toleranceMs w := by
  obtain ⟨other, hother, ⟨hid, hsame⟩ | ⟨htext, -, hnear⟩⟩ := h
  · exact Or.inl ⟨hid, (mem_knownIds_iff hid).mpr ⟨other, hother, hsame⟩⟩
  · exact Or.inr ⟨other, hother, htext, hnear⟩

/-- **Deduplicating again drops none.** -/
theorem dedupWords_dedupWords : dedupWords existing toleranceMs
    (dedupWords existing toleranceMs incoming) = dedupWords existing toleranceMs incoming := by
  rw [dedupWords_eq_filter, dedupWords_eq_filter, List.filter_filter]
  simp

end

/-- **Words are deduplicated safely exactly if no word is near words of other sources only.** -/
theorem dedupsSafely_iff (existing incoming : List (Word R)) (toleranceMs : ℤ) :
    DedupsSafely existing toleranceMs incoming
      ↔ ∀ w ∈ incoming, Near existing toleranceMs w → SameWord existing toleranceMs w := by
  have hmem : ∀ w ∈ incoming, (w ∉ dedupWords existing toleranceMs incoming
      ↔ Dropped existing toleranceMs w) := by
    intro w hw
    rw [dedupWords_eq_filter, List.mem_filter]
    simp [hw]
  constructor
  · intro h w hw hnear
    exact h.dropped w hw ((hmem w hw).mpr (Or.inr hnear))
  · intro h
    have hsame : ∀ w ∈ incoming, Dropped existing toleranceMs w →
        SameWord existing toleranceMs w := by
      rintro w hw (⟨hid, hknown⟩ | hnear)
      · obtain ⟨other, hother, hsame⟩ := (mem_knownIds_iff hid).mp hknown
        exact ⟨other, hother, Or.inl ⟨hid, hsame⟩⟩
      · exact h w hw hnear
    refine ⟨fun w hw hnot => hsame w hw ((hmem w hw).mp hnot), ?_, ?_, dedupWords_dedupWords⟩
    · rw [dedupWords_eq_filter, List.filter_congr (fun w hw => ?_)]
      exact decide_eq_decide.mpr (not_congr ⟨dropped_of_sameWord, hsame w hw⟩)
    · rw [dedupWords_eq_filter]
      exact List.filter_sublist

/-- A word of a source. -/
def wordOf (sourceTrack startMs : ℕ) : Word ℚ where
  text := "xin"
  startMs
  endMs := startMs + 400
  sourceTrack := some sourceTrack
  start_lt_end := Nat.lt_add_of_pos_right (by decide)

/-- **A speaker loses a word** that somebody else has just said. -/
theorem dedupWords_two_sources :
    dedupWords [wordOf 0 1000] 200 [wordOf 1 1100] = []
      ∧ ¬ DedupsSafely [wordOf 0 1000] 200 [wordOf 1 1100] := by
  have hempty : dedupWords [wordOf 0 1000] 200 [wordOf 1 1100] = [] := by
    rw [dedupWords_eq_filter]
    exact List.filter_eq_nil_iff.mpr (by decide +kernel)
  refine ⟨hempty, fun h => ?_⟩
  have hsame := h.dropped (wordOf 1 1100) List.mem_cons_self (hempty ▸ List.not_mem_nil)
  revert hsame
  decide +kernel

end Sastt
