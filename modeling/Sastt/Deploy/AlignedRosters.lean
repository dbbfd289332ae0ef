import Sastt.Deploy.OverlapEval
import Sastt.Lib.BestAssignments

/-!
# Names across two runs

A second run numbers its speakers anew. What it says is translated by the time
that its speakers share with those of the first run outside of overlaps; a speaker
without a counterpart keeps the name.

No counterpart is given twice, but a name that is kept may be one of the first run
all the same. If it was given to another speaker, two speakers are scored as one;
if it was not, a speaker is scored as one that was never compared. Both are ruled
out exactly where a speaker without clean speech in common has no name of the
first run, and where a name that is given to another is taken from its bearer
(`keepsApart_iff`). Where the runs have different words for speakers this is so,
and the numbers of two runs are the same words.
-/

namespace Sastt.OverlapEval

variable {reference candidate segments : List RunSegment} {mapping : List (String × String)}
  {assign : LinearSumAssignment} {pairs : List (String × String)}

/-! ## What is meant -/

/-- The speakers of a run. -/
def names (segments : List RunSegment) : List String := segments.filterMap predictedSpeaker

/-- The clean speech that a speaker of the second run shares with one of the
first. -/
def cleanShared (reference candidate : List RunSegment) (cand ref : String) : ℤ :=
  sharedTime (speakingTime reference ref) (speakingTime candidate cand)

/-- A speaker of the second run was heard outside of overlaps with one of the
first. -/
def SharesCleanSpeech (reference candidate : List RunSegment) (cand : String) : Prop :=
  ∃ ref ∈ roster reference, 0 < cleanShared reference candidate cand ref

/-- **Two people stay two**, and nobody without clean speech in common is scored as
somebody of the first run, unless aligned. -/
structure KeepsApart (reference candidate : List RunSegment) (mapping : List (String × String)) :
    Prop where
  distinct : Set.InjOn (renameBy mapping) {label | label ∈ names candidate}
  strangers : ∀ label ∈ names candidate, ¬ SharesCleanSpeech reference candidate label →
    ∀ ref ∈ names reference, renameBy mapping label = ref → (label, ref) ∈ mapping

/-- **When names keep speakers apart**: a speaker without clean speech in common
has no name of the first run, and of the best alignments each that gives a name to
another speaker gives its bearer one too. -/
structure NamesApart (reference candidate : List RunSegment) : Prop where
  strangers : ∀ label ∈ names candidate, ¬ SharesCleanSpeech reference candidate label →
    label ∉ names reference
  named : ∀ pairs, BestAssigns (cleanShared reference candidate) (roster candidate)
      (roster reference) pairs → ∀ p ∈ pairs, 0 < cleanShared reference candidate p.1 p.2 →
    p.2 ∈ names candidate → ∃ ref, (p.2, ref) ∈ pairs
      ∧ 0 < cleanShared reference candidate p.2 ref

/-! ## The solver -/

/-- An entry of a matrix. -/
def cell (matrix : List (List ℤ)) (row column : ℕ) : ℤ :=
  (matrix[row]?.bind (fun entries => entries[column]?)).getD 0

/-- **What is relied on of `linear_sum_assignment`**: of a matrix that is not empty
it returns a one-to-one assignment of maximum total. -/
def MaximisesTotal (assign : LinearSumAssignment) : Prop :=
  ∀ (matrix : List (List ℤ)) (k : ℕ), matrix ≠ [] → (∀ row ∈ matrix, row.length = k) →
    BestAssigns (cell matrix) (List.range matrix.length) (List.range k) (assign matrix)

/-- **Each of the best assignments of a matrix is that of a solver.** -/
theorem exists_maximisesTotal {matrix : List (List ℤ)} {k : ℕ} {cells : List (ℕ × ℕ)}
    (hwidth : ∀ row ∈ matrix, row.length = k)
    (h : BestAssigns (cell matrix) (List.range matrix.length) (List.range k) cells) :
    ∃ assign : LinearSumAssignment, MaximisesTotal assign ∧ assign matrix = cells := by
  have hsome : ∀ m : List (List ℤ), ∃ cells' : List (ℕ × ℕ),
      (∀ k', m ≠ [] → (∀ row ∈ m, row.length = k') →
        BestAssigns (cell m) (List.range m.length) (List.range k') cells')
      ∧ (m = matrix → cells' = cells) := by
    intro m
    by_cases hm : m = matrix
    · subst hm
      refine ⟨cells, fun k' hne hwidth' => ?_, fun _ => rfl⟩
      obtain ⟨row, hrow⟩ := List.exists_mem_of_ne_nil m hne
      rwa [← hwidth' row hrow, hwidth row hrow]
    · obtain ⟨best, hbest⟩ := exists_bestAssigns (cell m)
        (List.nodup_range : (List.range m.length).Nodup)
        (List.nodup_range : (List.range (m.headD []).length).Nodup)
      refine ⟨best, fun k' hne hwidth' => ?_, fun heq => absurd heq hm⟩
      cases m with
      | nil => exact absurd rfl hne
      | cons row m =>
        rwa [← hwidth' row List.mem_cons_self]
  choose assign hbest hcells using hsome
  exact ⟨assign, fun m => hbest m, hcells matrix rfl⟩

/-! ## What is aligned -/

theorem nodup_roster (segments : List RunSegment) : (roster segments).Nodup :=
  (List.perm_insertionSort _ _).nodup_iff.mpr (List.nodup_dedup _)

theorem mem_names_of_mem_roster {label : String} (h : label ∈ roster segments) :
    label ∈ names segments := by
  rw [roster, List.mem_insertionSort, List.mem_dedup, List.mem_filterMap] at h
  obtain ⟨s, hs, hlabel⟩ := h
  exact List.mem_filterMap.mpr ⟨s, (List.mem_filter.mp hs).1, hlabel⟩

/-- The time that the rosters share, as `align_to_reference` fills it in. -/
def sharedMatrix (reference candidate : List RunSegment) : List (List ℤ) :=
  (roster candidate).map fun cand =>
    (roster reference).map fun ref => cleanShared reference candidate cand ref

/-- The speakers of a cell. -/
def cellLabels (reference candidate : List RunSegment) : ℕ × ℕ → String × String :=
  Prod.map ((roster candidate).getD · "") ((roster reference).getD · "")

theorem map_getD_range (labels : List String) :
    (List.range labels.length).map (labels.getD · "") = labels := by
  refine List.ext_getElem (by simp) (fun i _ hi => ?_)
  simp [hi]

/-- The entry of a cell is what its speakers share. -/
theorem cell_sharedMatrix : ∀ row ∈ List.range (roster candidate).length,
    ∀ column ∈ List.range (roster reference).length,
      cleanShared reference candidate ((roster candidate).getD row "")
          ((roster reference).getD column "")
        = cell (sharedMatrix reference candidate) row column := by
  intro row hrow column hcolumn
  rw [List.mem_range] at hrow hcolumn
  simp [cell, sharedMatrix, hrow, hcolumn]

/-- The pairs that share some time. -/
def sharingPairs (reference candidate : List RunSegment) (pairs : List (String × String)) :
    List (String × String) :=
  pairs.filter (fun p => 0 < cleanShared reference candidate p.1 p.2)

@[simp] theorem mem_sharingPairs {p : String × String} :
    p ∈ sharingPairs reference candidate pairs
      ↔ p ∈ pairs ∧ 0 < cleanShared reference candidate p.1 p.2 := by
  rw [sharingPairs, List.mem_filter, decide_eq_true_iff]

/-- **What the alignment makes of cells**: the speakers of those that share some
time. -/
theorem alignToReference_of_cells {cells : List (ℕ × ℕ)} (href : roster reference ≠ [])
    (hcand : roster candidate ≠ []) (hcells : assign (sharedMatrix reference candidate) = cells)
    (hmem : ∀ c ∈ cells, c.1 ∈ List.range (roster candidate).length
      ∧ c.2 ∈ List.range (roster reference).length) :
    alignToReference assign reference candidate
      = sharingPairs reference candidate (cells.map (cellLabels reference candidate)) := by
  unfold alignToReference sharingPairs
  rw [if_neg (not_or.mpr ⟨href, hcand⟩)]
  change (assign (sharedMatrix reference candidate)).filterMap _ = _
  rw [hcells, ← List.filterMap_eq_filter, List.filterMap_map]
  refine List.filterMap_congr (fun (row, column) hc => ?_)
  obtain ⟨hrow, hcolumn⟩ := hmem _ hc
  rw [List.mem_range] at hrow hcolumn
  simp [cellLabels, cleanShared, Option.guard, hrow, hcolumn]

/-- **The best assignments of the rosters** are those of the matrix. -/
theorem bestAssigns_cells_iff :
    BestAssigns (cleanShared reference candidate) (roster candidate) (roster reference) pairs
      ↔ ∃ cells, BestAssigns (cell (sharedMatrix reference candidate))
          (List.range (roster candidate).length) (List.range (roster reference).length) cells
        ∧ cells.map (cellLabels reference candidate) = pairs := by
  have hrows := map_getD_range (roster candidate)
  have hcolumns := map_getD_range (roster reference)
  have hnodup := hrows.symm ▸ nodup_roster candidate
  have hnodup' := hcolumns.symm ▸ nodup_roster reference
  constructor
  · intro h
    rw [← hrows, ← hcolumns] at h
    exact h.exists_of_map cell_sharedMatrix hnodup hnodup'
  · rintro ⟨cells, h, rfl⟩
    have hmap := h.map cell_sharedMatrix hnodup hnodup'
    rwa [hrows, hcolumns] at hmap

/-- Nobody is aligned where nobody speaks outside of overlaps. -/
theorem alignToReference_of_empty (assign : LinearSumAssignment)
    (hempty : roster candidate = [] ∨ roster reference = []) :
    alignToReference assign reference candidate = [] := if_pos hempty.symm

/-- The rows of the matrix are as long as the first roster. -/
theorem length_of_mem_sharedMatrix {row : List ℤ} (h : row ∈ sharedMatrix reference candidate) :
    row.length = (roster reference).length := by
  obtain ⟨cand, -, rfl⟩ := List.mem_map.mp h
  rw [List.length_map]

theorem length_sharedMatrix (reference candidate : List RunSegment) :
    (sharedMatrix reference candidate).length = (roster candidate).length := List.length_map _

/-- **The alignment is a best assignment of the rosters**, less the pairs that
share no time. -/
theorem exists_pairs_of_maximisesTotal (h : MaximisesTotal assign) :
    ∃ pairs,
      BestAssigns (cleanShared reference candidate) (roster candidate) (roster reference) pairs
        ∧ alignToReference assign reference candidate
          = sharingPairs reference candidate pairs := by
  by_cases hempty : roster candidate = [] ∨ roster reference = []
  · obtain ⟨best, hbest⟩ := exists_bestAssigns (cleanShared reference candidate)
      (nodup_roster candidate) (nodup_roster reference)
    refine ⟨best, hbest, ?_⟩
    rw [alignToReference_of_empty assign hempty, hbest.eq_nil hempty]
    rfl
  · obtain ⟨hcand, href⟩ := not_or.mp hempty
    have hcells := h (sharedMatrix reference candidate) (roster reference).length
      (fun hnil => hcand (List.map_eq_nil_iff.mp hnil)) (fun _ => length_of_mem_sharedMatrix)
    rw [length_sharedMatrix] at hcells
    exact ⟨_, bestAssigns_cells_iff.mpr ⟨_, hcells, rfl⟩,
      alignToReference_of_cells href hcand rfl hcells.mem⟩

/-- **It may be each of them.** -/
theorem exists_maximisesTotal_of_pairs
    (h : BestAssigns (cleanShared reference candidate) (roster candidate) (roster reference)
      pairs) :
    ∃ assign, MaximisesTotal assign ∧ alignToReference assign reference candidate
      = sharingPairs reference candidate pairs := by
  obtain ⟨cells, hcells, hpairs⟩ := bestAssigns_cells_iff.mp h
  have hcells' := hcells
  rw [← length_sharedMatrix reference] at hcells'
  obtain ⟨assign, hassign, heq⟩ :=
    exists_maximisesTotal (fun _ => length_of_mem_sharedMatrix) hcells'
  refine ⟨assign, hassign, ?_⟩
  by_cases hempty : roster candidate = [] ∨ roster reference = []
  · rw [alignToReference_of_empty assign hempty, h.eq_nil hempty]
    rfl
  · obtain ⟨hcand, href⟩ := not_or.mp hempty
    rw [alignToReference_of_cells href hcand heq hcells.mem, hpairs]

/-! ## When speakers are kept apart -/

/-- Who is aligned shares clean speech. -/
theorem sharesCleanSpeech_of_mem
    (h : BestAssigns (cleanShared reference candidate) (roster candidate) (roster reference) pairs)
    {label : String} (hlabel : label ∈ (sharingPairs reference candidate pairs).map Prod.fst) :
    SharesCleanSpeech reference candidate label := by
  obtain ⟨p, hp, rfl⟩ := List.mem_map.mp hlabel
  obtain ⟨hpairs, hpos⟩ := mem_sharingPairs.mp hp
  exact ⟨p.2, (h.mem p hpairs).2, hpos⟩

/-- A best assignment keeps the speakers apart if whoever loses a name gets another
one, and if strangers have no name of the first run. -/
theorem keepsApart_sharingPairs_iff
    (h : BestAssigns (cleanShared reference candidate) (roster candidate) (roster reference)
      pairs) :
    KeepsApart reference candidate (sharingPairs reference candidate pairs)
      ↔ (∀ label ∈ names candidate, ¬ SharesCleanSpeech reference candidate label →
          label ∉ names reference)
        ∧ ∀ p ∈ pairs, 0 < cleanShared reference candidate p.1 p.2 → p.2 ∈ names candidate →
          ∃ ref, (p.2, ref) ∈ pairs ∧ 0 < cleanShared reference candidate p.2 ref := by
  have hkeys : ((sharingPairs reference candidate pairs).map Prod.fst).Nodup :=
    h.nodup_rows.sublist (List.filter_sublist.map Prod.fst)
  have hvalues : ((sharingPairs reference candidate pairs).map Prod.snd).Nodup :=
    h.nodup_columns.sublist (List.filter_sublist.map Prod.snd)
  have hself : ∀ label, ¬ SharesCleanSpeech reference candidate label →
      renameBy (sharingPairs reference candidate pairs) label = label := fun label hnone =>
    renameBy_of_notMem (fun hlabel => hnone (sharesCleanSpeech_of_mem h hlabel))
  constructor
  · intro hkeeps
    constructor
    · intro label hlabel hnone href
      have haligned := hkeeps.strangers label hlabel hnone label href (hself label hnone)
      exact hnone (sharesCleanSpeech_of_mem h (List.mem_map_of_mem haligned))
    · intro p hp hpos hbearer
      have hnamed := (injOn_renameBy_iff hkeys hvalues).mp hkeeps.distinct p
        (mem_sharingPairs.mpr ⟨hp, hpos⟩) (mem_names_of_mem_roster (h.mem p hp).1) hbearer
      obtain ⟨q, hq, hqp⟩ := List.mem_map.mp hnamed
      rw [← hqp]
      exact ⟨q.2, mem_sharingPairs.mp hq⟩
  · rintro ⟨hstrangers, hnamed⟩
    constructor
    · refine (injOn_renameBy_iff hkeys hvalues).mpr (fun p hp _ hbearer => ?_)
      obtain ⟨hp, hpos⟩ := mem_sharingPairs.mp hp
      obtain ⟨ref, href⟩ := hnamed p hp hpos hbearer
      exact List.mem_map_of_mem (mem_sharingPairs.mpr href)
    · intro label hlabel hnone ref href heq
      rw [hself label hnone] at heq
      exact absurd (heq ▸ href) (hstrangers label hlabel hnone)

/-- **Aligning two runs keeps their speakers apart, whichever best assignment is
found, exactly when their names do.** -/
theorem keepsApart_iff :
    (∀ assign, MaximisesTotal assign →
        KeepsApart reference candidate (alignToReference assign reference candidate))
      ↔ NamesApart reference candidate := by
  constructor
  · intro hkeeps
    have hpairs : ∀ pairs, BestAssigns (cleanShared reference candidate) (roster candidate)
        (roster reference) pairs →
          KeepsApart reference candidate (sharingPairs reference candidate pairs) := by
      intro pairs h
      obtain ⟨assign, hassign, heq⟩ := exists_maximisesTotal_of_pairs h
      exact heq ▸ hkeeps assign hassign
    obtain ⟨best, hbest⟩ := exists_bestAssigns (cleanShared reference candidate)
      (nodup_roster candidate) (nodup_roster reference)
    exact ⟨((keepsApart_sharingPairs_iff hbest).mp (hpairs best hbest)).1,
      fun pairs h => ((keepsApart_sharingPairs_iff h).mp (hpairs pairs h)).2⟩
  · intro hapart assign hassign
    obtain ⟨pairs, h, heq⟩ := exists_pairs_of_maximisesTotal hassign
    rw [heq]
    exact (keepsApart_sharingPairs_iff h).mpr ⟨hapart.strangers, hapart.named pairs h⟩

/-- Somebody speaks for five seconds. -/
def oneSpeaker : List RunSegment :=
  [{ startMs := 0, endMs := 5000, speakerLabel := some "Speaker 1" }]

/-- The same in a run that numbers a voice in an overlap first. -/
def renumbered : List RunSegment :=
  [{ startMs := 0, endMs := 5000, speakerLabel := some "Speaker 2" },
    { startMs := 6000, endMs := 8000, sourceTrack := some 0, isOverlap := true,
      speakerLabel := some "Speaker 1" }]

/-- **Two people are made one**: the first speaker of the second run shares no
clean speech, and keeps the name that the second one is given. -/
theorem renumbered_not_keepsApart :
    ∃ assign, MaximisesTotal assign ∧
      ¬ KeepsApart oneSpeaker renumbered (alignToReference assign oneSpeaker renumbered) := by
  have hcand : roster renumbered = ["Speaker 2"] := by decide +kernel
  have href : roster oneSpeaker = ["Speaker 1"] := by decide +kernel
  obtain ⟨best, hbest⟩ := exists_bestAssigns (cleanShared oneSpeaker renumbered)
    (nodup_roster renumbered) (nodup_roster oneSpeaker)
  obtain ⟨assign, hassign, heq⟩ := exists_maximisesTotal_of_pairs hbest
  have hpairs := hbest.toAssigns
  rw [hcand, href] at hpairs
  refine ⟨assign, hassign, fun hkeeps => ?_⟩
  rw [heq, hpairs.eq_singleton] at hkeeps
  have hsame : "Speaker 1" = "Speaker 2" :=
    hkeeps.distinct (show "Speaker 1" ∈ names renumbered by decide +kernel)
      (show "Speaker 2" ∈ names renumbered by decide +kernel) (by decide +kernel)
  exact absurd hsame (by decide)

end Sastt.OverlapEval
