import Mathlib.Tactic.FieldSimp
import Sastt.Adapters.Erasure
import Sastt.Adapters.FakeVoiceRegistry

/-!
# The two voice registries side by side

The registry in PostgreSQL is meant to behave as the one in memory. The two are
given the calls of one tenant. They keep books differently: the dictionary has an
entry with a prototype for each clip and a running sum, the tables have a row for
each clip that is new. Three things set them apart. A clip that comes again counts
again in memory, and not in PostgreSQL. An enrollment that leaves out the name keeps
the name in memory, and sets it back to the id in PostgreSQL. And a clip without
quality raises in memory, when half of the work is done (`registries_drift`).

As long as no enrollment is of one of these kinds, the books agree (`Mirrors`), and
so do the answers (`registries_agree`).
-/

namespace Sastt

variable {R V : Type} [Field R] [LinearOrder R] [AddCommGroup V] [Module R V] [EmbeddingSpace R V]

/-! ## The best scores -/

section Scores

omit [Field R]

/-- The rows of the identity and name of another. -/
def sameIdentity (g : ScoredIdentity R) (rows : List (ScoredIdentity R)) :
    List (ScoredIdentity R) :=
  rows.filter (fun row => row.identityId = g.identityId ∧ row.displayName = g.displayName)

omit [LinearOrder R] in
theorem sameIdentity_congr {g g' : ScoredIdentity R} (hid : g'.identityId = g.identityId)
    (hname : g'.displayName = g.displayName) (rows : List (ScoredIdentity R)) :
    sameIdentity g' rows = sameIdentity g rows := by
  unfold sameIdentity
  rw [hid, hname]

/-- **What the grouping leaves**: for each identity and name the best of its scores. -/
theorem mem_bestScores_iff {rows : List (ScoredIdentity R)} {g : ScoredIdentity R} :
    g ∈ bestScores rows
      ↔ ((sameIdentity g rows).map ScoredIdentity.score).max? = some g.score := by
  induction rows generalizing g with
  | nil => exact iff_of_false List.not_mem_nil (fun h => by cases h)
  | cons row rows ih =>
    unfold bestScores
    dsimp only
    by_cases hkey : row.identityId = g.identityId ∧ row.displayName = g.displayName
    · have hsame : sameIdentity g (row :: rows) = row :: sameIdentity g rows :=
        List.filter_cons_of_pos (decide_eq_true hkey)
      rw [hsame, List.map_cons, List.max?_cons, Option.some_inj]
      split
      · next hold =>
        obtain ⟨g₁, hg₁, hkey₁⟩ := List.any_eq_true.mp hold
        obtain ⟨hid₁, hname₁⟩ := of_decide_eq_true hkey₁
        have hmax := ih.mp hg₁
        rw [sameIdentity_congr (hid₁.trans hkey.1) (hname₁.trans hkey.2)] at hmax
        rw [hmax, List.mem_map]
        constructor
        · rintro ⟨g₂, hg₂, hscore⟩
          split at hscore
          · next hkey₂ =>
            have hmax₂ := ih.mp hg₂
            rw [sameIdentity_congr (hkey₂.1.trans hkey.1) (hkey₂.2.trans hkey.2), hmax] at hmax₂
            rw [← hscore, Option.elim_some, Option.some_inj.mp hmax₂]
          · next hkey₂ => exact absurd ⟨hscore ▸ hkey.1.symm, hscore ▸ hkey.2.symm⟩ hkey₂
        · intro hscore
          refine ⟨g₁, hg₁, ?_⟩
          rw [if_pos ⟨hid₁, hname₁⟩]
          rw [Option.elim_some] at hscore
          rw [hscore, hid₁.trans hkey.1, hname₁.trans hkey.2]
      · next hnew =>
        have hnone : ((sameIdentity g rows).map ScoredIdentity.score).max? = none := by
          by_contra hsome
          obtain ⟨score, hscore⟩ := Option.ne_none_iff_exists'.mp hsome
          have hg : ({ g with score } : ScoredIdentity R) ∈ bestScores rows := ih.mpr hscore
          exact hnew (List.any_eq_true.mpr ⟨_, hg, decide_eq_true ⟨hkey.1.symm, hkey.2.symm⟩⟩)
        rw [hnone, Option.elim_none]
        constructor
        · intro hg
          cases List.mem_cons.mp hg with
          | inl hg => rw [hg]
          | inr hg => exact absurd (ih.mp hg) (by rw [hnone]; exact (Option.some_ne_none _).symm)
        · intro hscore
          refine List.mem_cons.mpr (Or.inl ?_)
          cases g
          cases row
          simp_all
    · have hsame : sameIdentity g (row :: rows) = sameIdentity g rows :=
        List.filter_cons_of_neg (by simpa using hkey)
      rw [hsame, ← ih]
      split
      · rw [List.mem_map]
        constructor
        · rintro ⟨g₂, hg₂, hscore⟩
          split at hscore
          · next hkey₂ => exact absurd ⟨hscore ▸ hkey₂.1.symm, hscore ▸ hkey₂.2.symm⟩ hkey
          · exact hscore ▸ hg₂
        · exact fun hg => ⟨g, hg, if_neg (fun hkey₂ => hkey ⟨hkey₂.1.symm, hkey₂.2.symm⟩)⟩
      · refine List.mem_cons.trans (or_iff_right (fun hg => hkey ?_))
        rw [hg]
        exact ⟨rfl, rfl⟩

/-- One row is left of each. -/
theorem nodup_bestScores (rows : List (ScoredIdentity R)) :
    ((bestScores rows).map (fun g => (g.identityId, g.displayName))).Nodup := by
  induction rows with
  | nil => exact List.nodup_nil
  | cons row rows ih =>
    unfold bestScores
    dsimp only
    split
    · rw [List.map_map]
      convert ih using 1
      refine List.map_congr_left (fun g _ => ?_)
      dsimp only [Function.comp_apply]
      split <;> rfl
    · next hnew =>
      rw [List.map_cons, List.nodup_cons]
      refine ⟨fun hmem => hnew ?_, ih⟩
      obtain ⟨g, hg, hkey⟩ := List.mem_map.mp hmem
      obtain ⟨hid, hname⟩ := Prod.mk.inj hkey
      exact List.any_eq_true.mpr ⟨g, hg, decide_eq_true ⟨hid, hname⟩⟩

end Scores

/-! ## Decisions -/

namespace PgVectorVoiceRegistry

/-- A decision is about the first row and the score of the second. -/
theorem decision_congr {accept margin : R} {rows rows' : List (ScoredIdentity R)}
    (hhead : rows.head? = rows'.head?)
    (hscores : rows.map ScoredIdentity.score = rows'.map ScoredIdentity.score) :
    decision accept margin rows = decision accept margin rows' := by
  cases rows with
  | nil =>
    rw [List.map_nil, eq_comm, List.map_eq_nil_iff] at hscores
    rw [hscores]
  | cons best rest =>
    cases rows' with
    | nil => cases hscores
    | cons best' rest' =>
      obtain rfl : best = best' := Option.some.inj hhead
      have hrest : rest.map ScoredIdentity.score = rest'.map ScoredIdentity.score :=
        (List.cons.inj hscores).2
      have hgap : rest.head?.map (fun second => best.score - second.score)
          = rest'.head?.map (fun second => best.score - second.score) := by
        have hsecond := congrArg (fun scores : List R => scores.head?.map (best.score - ·)) hrest
        rwa [List.head?_map, List.head?_map, Option.map_map, Option.map_map] at hsecond
      unfold decision
      dsimp only
      rw [hgap]

theorem decision_take (accept margin : R) (rows : List (ScoredIdentity R)) :
    decision accept margin (rows.take 2) = decision accept margin rows := by
  match rows with
  | [] => rfl
  | [_] => rfl
  | _ :: _ :: _ => rfl

end PgVectorVoiceRegistry

/-- The row of an entry and its score. -/
def scoredEntry (a : R × RegistryEntry R V) : ScoredIdentity R :=
  ⟨a.2.identityId, some a.2.displayName, a.1⟩

omit [AddCommGroup V] [Module R V] [EmbeddingSpace R V] in
/-- **Both registries decide alike** on the same scores. -/
theorem FakeVoiceRegistry.decision_eq (accept margin : R) (scores : List (R × RegistryEntry R V)) :
    FakeVoiceRegistry.decision accept margin scores
      = PgVectorVoiceRegistry.decision accept margin (scores.map scoredEntry) := by
  match scores with
  | [] => rfl
  | [_] => rfl
  | _ :: _ :: _ => rfl

section Sorted

omit [Field R]

/-- **Two sortings of the same rows** have the same scores, and the same first row
unless the best score is shared. -/
theorem sorted_agree {rows rows' : List (ScoredIdentity R)} (hperm : rows.Perm rows')
    (hrows : rows.Pairwise (fun g g' => g'.score ≤ g.score))
    (hrows' : rows'.Pairwise (fun g g' => g'.score ≤ g.score))
    (hbest : ∀ g g' rest, rows = g :: g' :: rest → g'.score ≠ g.score) :
    rows.head? = rows'.head?
      ∧ rows.map ScoredIdentity.score = rows'.map ScoredIdentity.score := by
  have hscores : rows.map ScoredIdentity.score = rows'.map ScoredIdentity.score :=
    (hperm.map ScoredIdentity.score).eq_of_pairwise (fun _ _ _ _ h h' => le_antisymm h' h)
      (List.pairwise_map.mpr hrows) (List.pairwise_map.mpr hrows')
  refine ⟨?_, hscores⟩
  cases rows with
  | nil => rw [hperm.nil_eq]
  | cons g rest =>
    cases rows' with
    | nil => cases hscores
    | cons g' rest' =>
      have hsame : g.score = g'.score := (List.cons.inj hscores).1
      have hmem : g' ∈ g :: rest := hperm.mem_iff.mpr List.mem_cons_self
      refine congrArg some ?_
      cases List.mem_cons.mp hmem with
      | inl h => exact h.symm
      | inr h =>
        -- then the second row has the best score too
        cases rest with
        | nil => exact absurd h List.not_mem_nil
        | cons second rest =>
          obtain ⟨hfirst, hrest⟩ := List.pairwise_cons.mp hrows
          have hle : g'.score ≤ second.score := by
            cases List.mem_cons.mp h with
            | inl h => exact h ▸ le_refl _
            | inr h => exact (List.pairwise_cons.mp hrest).1 g' h
          exact absurd (le_antisymm (hfirst second List.mem_cons_self) (hsame ▸ hle))
            (hbest g second rest rfl)

end Sorted

/-! ## Prototypes -/

/-- **The vector library is linear**, as scalar products and norms are. -/
structure LinearScores (R V : Type) [Field R] [LinearOrder R] [AddCommGroup V] [Module R V]
    [EmbeddingSpace R V] : Prop where
  dot_smul : ∀ (a : R) (v w : V), (EmbeddingSpace.dot (a • v) w : R) = a * EmbeddingSpace.dot v w
  norm_smul : ∀ (a : R) (v : V),
    (EmbeddingSpace.norm (a • v) : R) = |a| * EmbeddingSpace.norm v

/-- **A prototype scores as a template does**, against a vector of norm one. -/
def SameVoice (modelVersion : String) (p : SpeakerPrototype R V) (x : VoiceTemplate R V) : Prop :=
  p.modelVersion = modelVersion
    ∧ ∀ w : V, EmbeddingSpace.norm (R := R) w = 1 →
      EmbeddingSpace.dot p.centroid w = cosine (R := R) x.vector w

/-- The rows that are stored under an id. -/
def VoiceTables.under (s : VoiceTables R V) (identityId : String) : List (VoiceTemplate R V) :=
  s.templates.filter (fun x => x.identityId = identityId)

/-- Rows that are added under an id are the last ones there. -/
theorem VoiceTables.under_append {s s' : VoiceTables R V} {rows : List (VoiceTemplate R V)}
    {identityId : String} (htemplates : s'.templates = s.templates ++ rows)
    (hrows : ∀ x ∈ rows, x.identityId = identityId) :
    s'.under identityId = s.under identityId ++ rows := by
  unfold under
  rw [htemplates, List.filter_append]
  exact congrArg _ (List.filter_eq_self.mpr (fun x hx => decide_eq_true (hrows x hx)))

section Prototypes

variable [IsStrictOrderedRing R]

/-- **The prototype of a clip scores as its row does.** -/
theorem sameVoice_fromEmbedding (hlinear : LinearScores R V) (db : VoiceDatabase R V)
    (tenantId identityId id : String) {e : SpeakerEmbedding R V} (hquality : 0 < e.quality) :
    ∃ p, SpeakerPrototype.fromEmbedding identityId e = .ok p
      ∧ SameVoice e.modelVersion p (VoiceTables.templateRow db tenantId identityId id e) := by
  have hnorm : (EmbeddingSpace.norm e.vector : R) ≠ 0 :=
    fun h => e.vector_ne_zero ((EmbeddingSpace.norm_eq_zero e.vector).mp h)
  unfold SpeakerPrototype.fromEmbedding
  rw [l2Normalize_of_ne_zero (smul_ne_zero hquality.ne' e.vector_ne_zero)]
  refine ⟨_, rfl, rfl, fun w hw => ?_⟩
  have hne : e.quality ≠ 0 := hquality.ne'
  show EmbeddingSpace.dot ((EmbeddingSpace.norm (R := R) (e.quality • e.vector))⁻¹
    • e.quality • e.vector) w = cosine e.vector w
  unfold cosine
  rw [hlinear.dot_smul, hlinear.dot_smul, hlinear.norm_smul, abs_of_pos hquality, hw, mul_one]
  field_simp

/-- **The prototypes of accepted clips**, one for each row. -/
theorem addPrototypes_eq (hlinear : LinearScores R V) (db : VoiceDatabase R V)
    (tenantId modelVersion : String)
    {accepted : List (SpeakerEmbedding R V)} (entry : RegistryEntry R V)
    (hquality : ∀ e ∈ accepted, 0 < e.quality ∧ e.modelVersion = modelVersion)
    {clips : List (String × SpeakerEmbedding R V)} (hclips : clips.map Prod.snd = accepted) :
    ∃ prototypes, addPrototypes accepted entry
        = (.ok (), { entry with prototypes := entry.prototypes ++ prototypes })
      ∧ List.Forall₂ (SameVoice modelVersion) prototypes (clips.map (fun clip =>
        VoiceTables.templateRow db tenantId entry.identityId clip.1 clip.2)) := by
  subst hclips
  induction clips generalizing entry with
  | nil => exact ⟨[], by simp [addPrototypes], List.Forall₂.nil⟩
  | cons clip clips ih =>
    rw [List.map_cons, List.forall_mem_cons] at hquality
    obtain ⟨⟨hpos, hversion⟩, hrest⟩ := hquality
    obtain ⟨p, hp, hsame⟩ :=
      sameVoice_fromEmbedding hlinear db tenantId entry.identityId clip.1 hpos
    obtain ⟨prototypes, hadd, hvoices⟩ :=
      ih { entry with prototypes := entry.prototypes ++ [p] } hrest
    refine ⟨p :: prototypes, ?_, List.Forall₂.cons (hversion ▸ hsame) hvoices⟩
    rw [List.map_cons, addPrototypes, hp]
    dsimp only
    rw [hadd, List.append_assoc, List.singleton_append]

end Prototypes

/-! ## Enrollments -/

namespace VoiceTables

variable {db : VoiceDatabase R V} {tenantId identityId : String}

/-- **Clips that are new are all inserted.** -/
theorem insertClips_new {clips : List (String × SpeakerEmbedding R V)} {s : VoiceTables R V}
    (hidentity : (s.identities identityId).isSome)
    (hdimension : ∀ clip ∈ clips, db.dimension clip.2.vector = embeddingDimension)
    (hids : (s.templates.map VoiceTemplate.id ++ clips.map Prod.fst).Nodup)
    (hsources : (s.templates.map VoiceTemplate.source ++ clips.map (fun clip =>
      (templateRow db tenantId identityId clip.1 clip.2).source)).Nodup) :
    ∃ s', s.insertClips db tenantId identityId clips = .ok s' ∧ s'.identities = s.identities
      ∧ s'.templates = s.templates ++ clips.map (fun clip =>
        templateRow db tenantId identityId clip.1 clip.2) := by
  induction clips generalizing s with
  | nil => exact ⟨s, rfl, rfl, (List.append_nil _).symm⟩
  | cons clip clips ih =>
    obtain ⟨hclip, hrest⟩ := List.forall_mem_cons.mp hdimension
    have hliteral : db.toVectorLiteral clip.2 = .ok clip.2.vector := by
      unfold VoiceDatabase.toVectorLiteral
      rw [if_neg (not_not.mpr hclip)]
    have hsource : (templateRow db tenantId identityId clip.1 clip.2).source
        ∉ s.templates.map VoiceTemplate.source :=
      fun hmem => List.disjoint_of_nodup_append hsources hmem List.mem_cons_self
    have hid : (templateRow db tenantId identityId clip.1 clip.2).id
        ∉ s.templates.map VoiceTemplate.id :=
      fun hmem => List.disjoint_of_nodup_append hids hmem List.mem_cons_self
    rcases s.insertTemplate_cases (templateRow db tenantId identityId clip.1 clip.2)
      with ⟨hold, -⟩ | ⟨-, hold, -⟩ | ⟨-, -, hinsert⟩
    · exact absurd hold hsource
    · exact absurd hold hid
    · obtain ⟨s₁, hs₁, hidentities, htemplates⟩ := hinsert hidentity
      have hstep : s.insertClip db tenantId identityId clip = .ok s₁ := by
        unfold insertClip
        rw [hliteral]
        exact hs₁
      obtain ⟨s', hs', hidentities', htemplates'⟩ := ih (hidentities ▸ hidentity) hrest
        (by rw [htemplates, List.map_append, List.append_assoc]; exact hids)
        (by rw [htemplates, List.map_append, List.append_assoc]; exact hsources)
      refine ⟨s', ?_, hidentities'.trans hidentities, ?_⟩
      · unfold insertClips
        rw [hstep]
        exact hs'
      · rw [htemplates', htemplates, List.append_assoc]
        rfl

end VoiceTables

/-! ## The dictionary -/

section Entries

omit [Field R] [LinearOrder R] [AddCommGroup V] [Module R V] [EmbeddingSpace R V]

variable {entries : List (RegistryEntry R V)} {entry : RegistryEntry R V}

theorem mem_setEntry {e : RegistryEntry R V} :
    e ∈ setEntry entry entries
      ↔ e = entry ∨ (e ∈ entries ∧ e.identityId ≠ entry.identityId) := by
  unfold setEntry
  split
  · next hfound =>
    obtain ⟨e₁, he₁, hid₁⟩ := List.any_eq_true.mp hfound
    rw [List.mem_map]
    constructor
    · rintro ⟨e₂, he₂, rfl⟩
      split
      · exact Or.inl rfl
      · next hne => exact Or.inr ⟨he₂, hne⟩
    · rintro (rfl | ⟨he, hne⟩)
      · exact ⟨e₁, he₁, if_pos (of_decide_eq_true hid₁)⟩
      · exact ⟨e, he, if_neg hne⟩
  · next hnew =>
    rw [List.mem_append, List.mem_singleton, or_comm]
    refine or_congr_right (and_iff_left_of_imp (fun he hid => hnew ?_)).symm
    exact List.any_eq_true.mpr ⟨e, he, decide_eq_true hid⟩

theorem nodup_setEntry (h : (entries.map RegistryEntry.identityId).Nodup) :
    ((setEntry entry entries).map RegistryEntry.identityId).Nodup := by
  unfold setEntry
  split
  · rw [List.map_map]
    convert h using 1
    refine List.map_congr_left (fun e _ => ?_)
    dsimp only [Function.comp_apply]
    split
    · next hid => exact hid.symm
    · rfl
  · next hnew =>
    rw [List.map_append]
    refine h.append (List.nodup_singleton _) (List.disjoint_singleton.mpr (fun hmem => hnew ?_))
    obtain ⟨e, he, hid⟩ := List.mem_map.mp hmem
    exact List.any_eq_true.mpr ⟨e, he, decide_eq_true hid⟩

end Entries

/-! ## The same books -/

/-- **The dictionary and the tables agree** on the identities of a tenant. -/
structure RegistriesMirror (tenantId modelVersion : String) (entries : List (RegistryEntry R V))
    (s : VoiceTables R V) : Prop where
  nodup : (entries.map RegistryEntry.identityId).Nodup
  row : ∀ entry ∈ entries, ∃ row, s.identities entry.identityId = some row
    ∧ row.tenantId = tenantId ∧ row.deletedAt = none ∧ row.displayName = some entry.displayName
  entry : ∀ identityId row, s.identities identityId = some row →
    ∃ entry ∈ entries, entry.identityId = identityId
  voices : ∀ entry ∈ entries,
    List.Forall₂ (SameVoice modelVersion) entry.prototypes (s.under entry.identityId)
  speech : ∀ entry ∈ entries,
    entry.acceptedSpeechMs = ((s.under entry.identityId).map VoiceTemplate.speechMs).sum
  owned : ∀ x ∈ s.templates, x.tenantId = tenantId ∧ x.modelReleaseId = modelVersion

namespace RegistriesMirror

variable {tenantId modelVersion identityId : String} {entries : List (RegistryEntry R V)}
  {s : VoiceTables R V}

theorem empty : RegistriesMirror tenantId modelVersion ([] : List (RegistryEntry R V))
    VoiceTables.empty where
  nodup := List.nodup_nil
  row _ h := absurd h List.not_mem_nil
  entry _ _ h := nomatch h
  voices _ h := absurd h List.not_mem_nil
  speech _ h := absurd h List.not_mem_nil
  owned _ h := absurd h List.not_mem_nil

/-- The rows under an id are those of the tenant and the model. -/
theorem templatesOf (h : RegistriesMirror tenantId modelVersion entries s) (identityId : String) :
    s.templatesOf tenantId identityId modelVersion = s.under identityId := by
  refine List.filter_congr (fun x hx => ?_)
  obtain ⟨htenant, hversion⟩ := h.owned x hx
  simp [htenant, hversion]

/-- **Both know the same identities.** -/
theorem exists_iff (h : RegistriesMirror tenantId modelVersion entries s) (identityId : String) :
    entries.any (fun e => e.identityId = identityId) = true
      ↔ ∃ row, s.find tenantId identityId = some row ∧ row.deletedAt = none := by
  constructor
  · intro hany
    obtain ⟨entry, hentry, hid⟩ := List.any_eq_true.mp hany
    obtain ⟨row, hrow, htenant, hdeleted, -⟩ := h.row entry hentry
    rw [of_decide_eq_true hid] at hrow
    refine ⟨row, ?_, hdeleted⟩
    exact Option.filter_eq_some_iff.mpr ⟨hrow, decide_eq_true htenant⟩
  · rintro ⟨row, hrow, -⟩
    obtain ⟨entry, hentry, hid⟩ := h.entry identityId row (Option.filter_eq_some_iff.mp hrow).1
    exact List.any_eq_true.mpr ⟨entry, hentry, decide_eq_true hid⟩

/-- **A deletion** leaves both without the identity. -/
theorem deleteIdentity (h : RegistriesMirror tenantId modelVersion entries s)
    (identityId : String) :
    RegistriesMirror tenantId modelVersion
        (entries.filter (fun e => e.identityId ≠ identityId))
        (s.deleteIdentity tenantId identityId).1
      ∧ (s.deleteIdentity tenantId identityId).2
        = entries.any (fun e => e.identityId = identityId) := by
  rcases s.deleteIdentity_cases tenantId identityId
    with ⟨hnone, hdelete⟩ | ⟨row, s', hrow, htenant, hdelete, hidentities, htemplates⟩
  · have hany : entries.any (fun e => e.identityId = identityId) = false := by
      refine Bool.eq_false_iff.mpr (fun hany => ?_)
      obtain ⟨row, hfind, -⟩ := (h.exists_iff identityId).mp hany
      rw [hnone] at hfind
      cases hfind
    have hall : entries.filter (fun e => e.identityId ≠ identityId) = entries := by
      refine List.filter_eq_self.mpr (fun e he => decide_eq_true (fun hid => ?_))
      exact Bool.eq_false_iff.mp hany (List.any_eq_true.mpr ⟨e, he, decide_eq_true hid⟩)
    rw [hdelete, hany, hall]
    exact ⟨h, rfl⟩
  · obtain ⟨entry, hentry, hid⟩ := h.entry identityId row hrow
    have hany : entries.any (fun e => e.identityId = identityId) = true :=
      List.any_eq_true.mpr ⟨entry, hentry, decide_eq_true hid⟩
    have hunder : ∀ id, id ≠ identityId → s'.under id = s.under id := by
      intro id hne
      unfold VoiceTables.under
      rw [htemplates, List.filter_filter]
      refine List.filter_congr (fun x _ => ?_)
      by_cases hx : x.identityId = id
      · simp [hx, hne]
      · simp [hx]
    have hkept : ∀ e ∈ entries.filter (fun e => e.identityId ≠ identityId),
        e ∈ entries ∧ e.identityId ≠ identityId := by
      intro e he
      obtain ⟨hmem, hne⟩ := List.mem_filter.mp he
      exact ⟨hmem, of_decide_eq_true hne⟩
    rw [hdelete, hany]
    refine ⟨⟨h.nodup.sublist (List.filter_sublist.map _), fun e he => ?_, fun id row' hrow' => ?_,
      fun e he => ?_, fun e he => ?_, fun x hx => ?_⟩, rfl⟩
    · rw [hidentities, Function.update_of_ne (hkept e he).2]
      exact h.row e (hkept e he).1
    · have hne : id ≠ identityId := by
        rintro rfl
        rw [hidentities, Function.update_self] at hrow'
        cases hrow'
      rw [hidentities, Function.update_of_ne hne] at hrow'
      obtain ⟨e, he, rfl⟩ := h.entry id row' hrow'
      exact ⟨e, List.mem_filter.mpr ⟨he, decide_eq_true hne⟩, rfl⟩
    · rw [hunder _ (hkept e he).2]
      exact h.voices e (hkept e he).1
    · rw [hunder _ (hkept e he).2]
      exact h.speech e (hkept e he).1
    · rw [htemplates] at hx
      exact h.owned x (List.mem_of_mem_filter hx)

/-- **What an assignment to an entry and the rows of an enrollment leave.** -/
theorem setEntry (h : RegistriesMirror tenantId modelVersion entries s)
    {entry : RegistryEntry R V} {row : VoiceIdentity} {rows : List (VoiceTemplate R V)}
    {s' : VoiceTables R V}
    (hidentities : s'.identities = Function.update s.identities entry.identityId (some row))
    (htemplates : s'.templates = s.templates ++ rows)
    (hrow : row.tenantId = tenantId ∧ row.deletedAt = none
      ∧ row.displayName = some entry.displayName)
    (hrows : ∀ x ∈ rows, x.identityId = entry.identityId ∧ x.tenantId = tenantId
      ∧ x.modelReleaseId = modelVersion)
    (hvoices : List.Forall₂ (SameVoice modelVersion) entry.prototypes
      (s.under entry.identityId ++ rows))
    (hspeech : entry.acceptedSpeechMs
      = ((s.under entry.identityId ++ rows).map VoiceTemplate.speechMs).sum) :
    RegistriesMirror tenantId modelVersion (Sastt.setEntry entry entries) s' := by
  have hunder : s'.under entry.identityId = s.under entry.identityId ++ rows :=
    VoiceTables.under_append htemplates (fun x hx => (hrows x hx).1)
  have hothers : ∀ id, id ≠ entry.identityId → s'.under id = s.under id := by
    intro id hne
    unfold VoiceTables.under
    rw [htemplates, List.filter_append]
    refine (congrArg _ (List.filter_eq_nil_iff.mpr (fun x hx hid => hne ?_))).trans
      (List.append_nil _)
    exact (of_decide_eq_true hid).symm.trans (hrows x hx).1
  refine ⟨nodup_setEntry h.nodup, fun e he => ?_, fun id row' hrow' => ?_, fun e he => ?_,
    fun e he => ?_, fun x hx => ?_⟩
  · rw [hidentities]
    rcases mem_setEntry.mp he with rfl | ⟨he, hne⟩
    · exact ⟨row, Function.update_self .., hrow⟩
    · rw [Function.update_of_ne hne]
      exact h.row e he
  · by_cases hid : id = entry.identityId
    · exact ⟨entry, mem_setEntry.mpr (Or.inl rfl), hid.symm⟩
    · rw [hidentities, Function.update_of_ne hid] at hrow'
      obtain ⟨e, he, rfl⟩ := h.entry id row' hrow'
      exact ⟨e, mem_setEntry.mpr (Or.inr ⟨he, hid⟩), rfl⟩
  · rcases mem_setEntry.mp he with rfl | ⟨he, hne⟩
    · exact hunder ▸ hvoices
    · exact (hothers _ hne) ▸ h.voices e he
  · rcases mem_setEntry.mp he with rfl | ⟨he, hne⟩
    · exact hunder ▸ hspeech
    · exact (hothers _ hne) ▸ h.speech e he
  · rw [htemplates] at hx
    cases List.mem_append.mp hx with
    | inl hx => exact h.owned x hx
    | inr hx => exact (hrows x hx).2

/-- **The entry an enrollment finds or makes** agrees with the rows under the id. -/
theorem found (h : RegistriesMirror tenantId modelVersion entries s) (identityId : String)
    {fresh entry : RegistryEntry R V} (hfresh : fresh.identityId = identityId)
    (hempty : fresh.prototypes = [] ∧ fresh.acceptedSpeechMs = 0)
    (hentry : (entries.find? (fun e => e.identityId = identityId)).getD fresh = entry) :
    entry.identityId = identityId
      ∧ List.Forall₂ (SameVoice modelVersion) entry.prototypes (s.under identityId)
      ∧ entry.acceptedSpeechMs = ((s.under identityId).map VoiceTemplate.speechMs).sum := by
  cases hfind : entries.find? (fun e => e.identityId = identityId) with
  | some e =>
    rw [hfind] at hentry
    obtain rfl : e = entry := hentry
    have hid : e.identityId = identityId := by simpa using List.find?_some hfind
    subst hid
    have hmem := List.mem_of_find?_eq_some hfind
    exact ⟨rfl, h.voices e hmem, h.speech e hmem⟩
  | none =>
    rw [hfind] at hentry
    obtain rfl : fresh = entry := hentry
    have hunder : s.under identityId = [] := by
      refine List.filter_eq_nil_iff.mpr (fun x hx hid => ?_)
      -- the row of a template has an entry
      obtain ⟨row, hrow⟩ := Option.isSome_iff_exists.mp (s.references x hx)
      obtain ⟨e, he, heid⟩ := h.entry _ row hrow
      exact List.find?_eq_none.mp hfind e he (decide_eq_true (heid.trans (of_decide_eq_true hid)))
    rw [hunder, hempty.1, hempty.2]
    exact ⟨hfresh, List.Forall₂.nil, rfl⟩

/-- **The row an enrollment leaves** is the tenant's. -/
theorem upsertedRow (h : RegistriesMirror tenantId modelVersion entries s)
    (identityId displayName consentRef : String) :
    (VoiceTables.upsertedRow (s.identities identityId) identityId tenantId displayName
        consentRef).tenantId = tenantId
      ∧ (VoiceTables.upsertedRow (s.identities identityId) identityId tenantId displayName
        consentRef).deletedAt = none
      ∧ (VoiceTables.upsertedRow (s.identities identityId) identityId tenantId displayName
        consentRef).displayName = some displayName := by
  unfold VoiceTables.upsertedRow
  cases hfound : s.identities identityId with
  | none => exact ⟨rfl, rfl, rfl⟩
  | some row =>
    obtain ⟨entry, hentry, hid⟩ := h.entry identityId row hfound
    obtain ⟨row', hrow', htenant, hdeleted, -⟩ := h.row entry hentry
    rw [hid, hfound] at hrow'
    cases hrow'
    dsimp only
    rw [if_pos htenant]
    exact ⟨htenant, hdeleted, rfl⟩

end RegistriesMirror

/-! ## One tenant's calls -/

/-- **The two registries**, with the entries of the tenant's. -/
structure Registries (R V : Type) [Field R] [LinearOrder R] [AddCommGroup V] [Module R V]
    [EmbeddingSpace R V] where
  entries : RegistryEntries R V := fun _ => []
  tables : VoiceTables R V := .empty

namespace Registries

variable (registry : PgVectorVoiceRegistry R V) (tenantId : String)

/-- **One call to both.** -/
def call (s : Registries R V) (e : VoiceCall R V) : Registries R V where
  entries := (registry.inMemory.call ⟨tenantId, 0⟩ s.entries e).2
  tables := registry.call s.tables (⟨tenantId, 0⟩, e)

/-- What the registry in PostgreSQL returns. -/
def returned (s : Registries R V) (e : VoiceCall R V) : VoiceResult R V :=
  ((registry.program ⟨tenantId, 0⟩ e).alone (VoiceTables.execute registry.pool) s.tables).1

/-- **Both return the same**, unless they are asked for prototypes. -/
def SameResult (s : Registries R V) (e : VoiceCall R V) : Prop :=
  match e with
  | .prototypesOf _ => True
  | _ => returned registry tenantId s e = (registry.inMemory.call ⟨tenantId, 0⟩ s.entries e).1

/-- **The call is one the registries are made for**: vectors of the model have the
dimension of the column, the ids that are drawn are new, and a clip to identify has
norm one and no two identities that score best. -/
def Regular (s : Registries R V) (e : VoiceCall R V) : Prop :=
  match e with
  | .enroll _ embeddings _ _ newIds =>
    (∀ clip ∈ registry.acceptedClips embeddings newIds,
        registry.pool.dimension clip.2.vector = embeddingDimension)
      ∧ (s.tables.templates.map VoiceTemplate.id
        ++ (registry.acceptedClips embeddings newIds).map Prod.fst).Nodup
  | .identify e =>
    registry.pool.dimension e.vector = embeddingDimension
      ∧ EmbeddingSpace.norm (R := R) e.vector = 1
      ∧ ((s.tables.bestIdentities registry.pool e.vector tenantId registry.modelVersion).map
        ScoredIdentity.score).Nodup
  | _ => True

/-- **An enrollment says all there is to say**: its accepted clips have a quality and
are new, and it gives a name unless the name that is stored is the id. -/
def EnrollsAfresh (s : Registries R V) (e : VoiceCall R V) : Prop :=
  match e with
  | .enroll identityId embeddings displayName _ newIds =>
    (∀ clip ∈ registry.acceptedClips embeddings newIds, 0 < clip.2.quality)
      ∧ (s.tables.templates.map VoiceTemplate.source
        ++ (registry.acceptedClips embeddings newIds).map (fun clip =>
          (VoiceTables.templateRow registry.pool tenantId identityId clip.1 clip.2).source)).Nodup
      ∧ (orDefault displayName "" = "" →
        ∀ row ∈ s.tables.identities identityId, row.displayName = some identityId)
  | _ => True

/-- The books agree. -/
def Mirror (s : Registries R V) : Prop :=
  RegistriesMirror tenantId registry.modelVersion (s.entries tenantId) s.tables

end Registries

/-! ### Enrolling -/

/-- What `enroll` reports when there are so many prototypes under the id, of so much
speech. -/
def PgVectorVoiceRegistry.report (registry : PgVectorVoiceRegistry R V) (identityId : String)
    (embeddings : List (SpeakerEmbedding R V)) (prototypeCount totalSpeech : ℕ) :
    EnrollmentReport :=
  let accepted := embeddings.filter (fun e => (registry.clipReasons e).isEmpty)
  let reasons :=
    (if prototypeCount < registry.minimumClips then ["fewer_than_minimum_clips"] else [])
      ++ (if totalSpeech < registry.minimumTotalSpeechMs then ["insufficient_total_speech"] else [])
  { identityId
    acceptedClips := accepted.length
    rejectedClips := embeddings.length - accepted.length
    totalSpeechMs := totalSpeech
    prototypeCount
    embeddingModelVersion := registry.modelVersion
    meetsPolicy := reasons.isEmpty
    clips := embeddings.zipIdx.map (fun clip =>
      { clipIndex := clip.2
        accepted := (registry.clipReasons clip.1).isEmpty
        speechDurationMs := clip.1.speechDurationMs
        reasons := registry.clipReasons clip.1 : EnrollmentClipReport })
    reasons }

namespace Registries

section Enrolling

variable {registry : PgVectorVoiceRegistry R V} {tenantId : String}

theorem returned_enroll (s : Registries R V) (identityId : String)
    (embeddings : List (SpeakerEmbedding R V)) (displayName consentRef : Option String)
    (newIds : ℕ → String) :
    returned registry tenantId s (.enroll identityId embeddings displayName consentRef newIds)
      = .report ((s.tables.execute registry.pool (.enroll tenantId identityId
          (orDefault displayName identityId) (orDefault consentRef "unspecified")
          registry.modelVersion (registry.acceptedClips embeddings newIds))).2.map
        (fun stored => registry.report identityId embeddings stored.1 stored.2)) := by
  unfold returned PgVectorVoiceRegistry.program
  dsimp only
  rw [Program.alone_map]
  unfold PgVectorVoiceRegistry.enroll
  dsimp only
  rw [Program.alone_bind, Program.alone_issue]
  unfold PgVectorVoiceRegistry.acceptedClips
  split
  · next e he =>
    dsimp only at he
    rw [he]
    rfl
  · next prototypeCount totalSpeech he =>
    dsimp only at he
    rw [he]
    rfl

theorem acceptedClips_map_snd (embeddings : List (SpeakerEmbedding R V)) (newIds : ℕ → String) :
    (registry.acceptedClips embeddings newIds).map Prod.snd
      = embeddings.filter (fun e => (registry.inMemory.clipReasons e).isEmpty) := by
  unfold PgVectorVoiceRegistry.acceptedClips
  rw [List.map_map]
  exact List.zipIdx_map_fst 0 _

/-- An accepted clip is of the model of the registry. -/
theorem modelVersion_of_accepted {e : SpeakerEmbedding R V}
    (h : (registry.clipReasons e).isEmpty = true) : e.modelVersion = registry.modelVersion := by
  by_contra hne
  unfold PgVectorVoiceRegistry.clipReasons at h
  rw [if_pos hne] at h
  cases h

theorem orDefault_orDefault (value : Option String) (default : String) :
    orDefault value (orDefault value default) = orDefault value default := by
  unfold orDefault
  cases value with
  | none => rfl
  | some v =>
    dsimp only
    split <;> rfl

theorem orDefault_of_given {value : Option String} (h : orDefault value "" ≠ "")
    (default default' : String) : orDefault value default = orDefault value default' := by
  unfold orDefault at h ⊢
  cases value with
  | none => exact absurd rfl h
  | some v =>
    by_cases hv : v = ""
    · simp [hv] at h
    · simp [hv]

/-- **The names agree**: the one that is stored in memory is the one that is stored in
the table. -/
theorem name_eq {s : Registries R V} (h : s.Mirror registry tenantId) {identityId : String}
    {displayName : Option String}
    (hname : orDefault displayName "" = "" →
      ∀ row ∈ s.tables.identities identityId, row.displayName = some identityId)
    {fresh : RegistryEntry R V} (hfresh : fresh.displayName = orDefault displayName identityId) :
    orDefault displayName (((s.entries tenantId).find?
        (fun e => e.identityId = identityId)).getD fresh).displayName
      = orDefault displayName identityId := by
  cases hfind : (s.entries tenantId).find? (fun e => e.identityId = identityId) with
  | none =>
    rw [Option.getD_none, hfresh]
    exact orDefault_orDefault _ _
  | some entry =>
    rw [Option.getD_some]
    by_cases hgiven : orDefault displayName "" = ""
    · have hid : entry.identityId = identityId := by simpa using List.find?_some hfind
      obtain ⟨row, hrow, -, -, hstored⟩ := h.row entry (List.mem_of_find?_eq_some hfind)
      rw [hid] at hrow
      have hsame := hname hgiven row hrow
      rw [hstored, Option.some_inj] at hsame
      rw [hsame]
    · exact orDefault_of_given hgiven _ _

variable [IsStrictOrderedRing R]

/-- **An enrollment that says all there is to say**: both registries store the same, and
report the same. -/
theorem enroll_agrees (hlinear : LinearScores R V) {s : Registries R V}
    (h : s.Mirror registry tenantId) {identityId : String}
    {embeddings : List (SpeakerEmbedding R V)} {displayName consentRef : Option String}
    {newIds : ℕ → String}
    (hregular : s.Regular registry tenantId
      (.enroll identityId embeddings displayName consentRef newIds))
    (hafresh : s.EnrollsAfresh registry tenantId
      (.enroll identityId embeddings displayName consentRef newIds)) :
    (s.call registry tenantId
        (.enroll identityId embeddings displayName consentRef newIds)).Mirror registry tenantId
      ∧ s.SameResult registry tenantId
        (.enroll identityId embeddings displayName consentRef newIds) := by
  obtain ⟨hdimension, hids⟩ := hregular
  obtain ⟨hquality, hsources, hname⟩ := hafresh
  let clips := registry.acceptedClips embeddings newIds
  let rows := clips.map (fun clip =>
    VoiceTables.templateRow registry.pool tenantId identityId clip.1 clip.2)
  let upserted := s.tables.upsertIdentity identityId tenantId (orDefault displayName identityId)
    (orDefault consentRef "unspecified")
  have htemplates : upserted.templates = s.tables.templates := VoiceTables.upsertIdentity_templates
  have hclips : ∃ s', upserted.insertClips registry.pool tenantId identityId clips = .ok s'
      ∧ s'.identities = upserted.identities ∧ s'.templates = upserted.templates ++ rows := by
    refine VoiceTables.insertClips_new ?_ hdimension (htemplates ▸ hids) (htemplates ▸ hsources)
    rw [VoiceTables.upsertIdentity_self]
    rfl
  obtain ⟨s', hinsert, hidentities, hinserted⟩ := hclips
  let fresh : RegistryEntry R V := { identityId, displayName := orDefault displayName identityId }
  let found := ((s.entries tenantId).find? (fun e => e.identityId = identityId)).getD fresh
  let entry : RegistryEntry R V := { found with
    consentRef := if orDefault consentRef "" = "" then found.consentRef else consentRef
    displayName := orDefault displayName found.displayName }
  obtain ⟨hid, hvoices, hspeech⟩ :=
    h.found identityId (rfl : fresh.identityId = identityId) ⟨rfl, rfl⟩ rfl
  have haccepted : ∀ e ∈ embeddings.filter (fun e => (registry.inMemory.clipReasons e).isEmpty),
      0 < e.quality ∧ e.modelVersion = registry.modelVersion := by
    refine fun e he => ⟨?_, modelVersion_of_accepted (List.mem_filter.mp he).2⟩
    rw [← acceptedClips_map_snd embeddings newIds] at he
    obtain ⟨clip, hclip, rfl⟩ := List.mem_map.mp he
    exact hquality clip hclip
  obtain ⟨prototypes, hadd, hnew⟩ := addPrototypes_eq hlinear registry.pool tenantId
    registry.modelVersion entry haccepted (acceptedClips_map_snd embeddings newIds)
  let speech := ((embeddings.filter (fun e => (registry.inMemory.clipReasons e).isEmpty)).map
    SpeakerEmbedding.speechDurationMs).sum
  let enrolled : RegistryEntry R V := { entry with
    prototypes := entry.prototypes ++ prototypes
    acceptedSpeechMs := entry.acceptedSpeechMs + speech }
  have hrowsSpeech : (rows.map VoiceTemplate.speechMs).sum = speech := by
    show ((clips.map _).map VoiceTemplate.speechMs).sum = _
    rw [List.map_map]
    show ((clips.map (SpeakerEmbedding.speechDurationMs ∘ Prod.snd))).sum = _
    rw [← List.map_map, acceptedClips_map_snd]
  have hrow := h.upsertedRow identityId (orDefault displayName identityId)
    (orDefault consentRef "unspecified")
  have hset : s'.identities = Function.update s.tables.identities enrolled.identityId
      (some (VoiceTables.upsertedRow (s.tables.identities identityId) identityId tenantId
        (orDefault displayName identityId) (orDefault consentRef "unspecified"))) := by
    rw [show enrolled.identityId = identityId from hid]
    exact hidentities.trans VoiceTables.upsertIdentity_identities
  have hrows : ∀ x ∈ rows, x.identityId = enrolled.identityId ∧ x.tenantId = tenantId
      ∧ x.modelReleaseId = registry.modelVersion := by
    intro x hx
    obtain ⟨clip, hclip, rfl⟩ := List.mem_map.mp hx
    refine ⟨hid.symm, rfl, (haccepted clip.2 ?_).2⟩
    rw [← acceptedClips_map_snd embeddings newIds]
    exact List.mem_map_of_mem hclip
  have hall : List.Forall₂ (SameVoice registry.modelVersion) enrolled.prototypes
      (s.tables.under enrolled.identityId ++ rows) := by
    rw [show entry.identityId = identityId from hid] at hnew
    rw [show enrolled.identityId = identityId from hid]
    exact List.rel_append hvoices hnew
  have hsum : enrolled.acceptedSpeechMs
      = ((s.tables.under enrolled.identityId ++ rows).map VoiceTemplate.speechMs).sum := by
    rw [show enrolled.identityId = identityId from hid, List.map_append, List.sum_append,
      hrowsSpeech, ← hspeech]
  have hmirror : RegistriesMirror tenantId registry.modelVersion
      (setEntry enrolled (s.entries tenantId)) s' :=
    h.setEntry hset (hinserted.trans (by rw [htemplates]))
      ⟨hrow.1, hrow.2.1, hrow.2.2.trans (congrArg some (name_eq h hname rfl).symm)⟩ hrows hall hsum
  have hstored : s'.templatesOf tenantId identityId registry.modelVersion
      = s.tables.under enrolled.identityId ++ rows := by
    rw [hmirror.templatesOf, ← show enrolled.identityId = identityId from hid]
    exact VoiceTables.under_append (hinserted.trans (by rw [htemplates])) (fun x hx =>
      (hrows x hx).1)
  have hexecute : s.tables.execute registry.pool (.enroll tenantId identityId
        (orDefault displayName identityId) (orDefault consentRef "unspecified")
        registry.modelVersion clips)
      = (s', .ok (enrolled.prototypes.length, enrolled.acceptedSpeechMs)) := by
    unfold VoiceTables.execute
    dsimp only
    rw [hinsert]
    dsimp only
    rw [hstored, hall.length_eq, hsum]
  have hmemory : registry.inMemory.call ⟨tenantId, 0⟩ s.entries
        (.enroll identityId embeddings displayName consentRef newIds)
      = (.report (.ok (registry.report identityId embeddings enrolled.prototypes.length
          enrolled.acceptedSpeechMs)),
        Function.update s.entries tenantId (setEntry enrolled (s.entries tenantId))) := by
    unfold FakeVoiceRegistry.call FakeVoiceRegistry.enroll
    dsimp only
    rw [hadd]
    rfl
  constructor
  · unfold Mirror Registries.call
    rw [hmemory, PgVectorVoiceRegistry.call_enroll, hexecute]
    dsimp only
    rw [Function.update_self]
    exact hmirror
  · show returned registry tenantId s _ = _
    rw [returned_enroll, hexecute, hmemory]
    rfl

end Enrolling

end Registries

/-! ### Identifying -/

namespace RegistriesMirror

variable {tenantId modelVersion : String} {entries : List (RegistryEntry R V)}
  {s : VoiceTables R V}

/-- **Every template is scored**, under the name of its entry. -/
theorem scoreOf (h : RegistriesMirror tenantId modelVersion entries s) (vector : V)
    {x : VoiceTemplate R V} (hx : x ∈ s.templates) :
    ∃ entry ∈ entries, entry.identityId = x.identityId
      ∧ s.scoreOf vector x
        = some ⟨x.identityId, some entry.displayName, cosine x.vector vector⟩ := by
  obtain ⟨row, hrow⟩ := Option.isSome_iff_exists.mp (s.references x hx)
  obtain ⟨entry, hentry, hid⟩ := h.entry _ row hrow
  obtain ⟨row', hrow', -, hdeleted, hname⟩ := h.row entry hentry
  rw [hid, hrow] at hrow'
  cases hrow'
  refine ⟨entry, hentry, hid, ?_⟩
  unfold VoiceTables.scoreOf
  rw [hrow, Option.filter_some, if_pos (decide_eq_true hdeleted), Option.map_some, hname]

/-- There is one entry for each id. -/
theorem entry_eq (h : RegistriesMirror tenantId modelVersion entries s)
    {e e' : RegistryEntry R V} (he : e ∈ entries) (he' : e' ∈ entries)
    (hid : e.identityId = e'.identityId) : e = e' :=
  List.inj_on_of_nodup_map h.nodup he he' hid

/-- **The scores of an identity** are those of the rows under its id. -/
theorem scores_eq (h : RegistriesMirror tenantId modelVersion entries s) (vector : V)
    {entry : RegistryEntry R V} (hentry : entry ∈ entries) (score : R)
    {templates : List (VoiceTemplate R V)} (hsub : ∀ x ∈ templates, x ∈ s.templates) :
    (sameIdentity ⟨entry.identityId, some entry.displayName, score⟩
        (templates.filterMap (s.scoreOf vector))).map ScoredIdentity.score
      = (templates.filter (fun x => x.identityId = entry.identityId)).map
        (fun x => cosine x.vector vector) := by
  induction templates with
  | nil => rfl
  | cons x templates ih =>
    obtain ⟨hx, hrest⟩ := List.forall_mem_cons.mp hsub
    obtain ⟨e, he, hid, hscore⟩ := h.scoreOf vector hx
    rw [List.filterMap_cons, hscore]
    unfold sameIdentity at ih ⊢
    by_cases hsame : x.identityId = entry.identityId
    · obtain rfl : e = entry := h.entry_eq he hentry (hid.trans hsame)
      rw [List.filter_cons_of_pos (by simp [hsame]), List.filter_cons_of_pos (by simp [hsame]),
        List.map_cons, List.map_cons, ih hrest]
    · rw [List.filter_cons_of_neg (by simp [hsame]), List.filter_cons_of_neg (by simp [hsame]),
        ih hrest]

/-- **Prototypes and rows of the same voices score alike.** -/
theorem similarities_eq {prototypes : List (SpeakerPrototype R V)}
    {templates : List (VoiceTemplate R V)}
    (h : List.Forall₂ (SameVoice modelVersion) prototypes templates) {e : SpeakerEmbedding R V}
    (hversion : e.modelVersion = modelVersion) (hnorm : EmbeddingSpace.norm (R := R) e.vector = 1) :
    prototypes.mapM (fun p => p.similarity e)
      = .ok (templates.map (fun x => cosine x.vector e.vector)) := by
  induction h with
  | nil => rfl
  | cons hsame _ ih =>
    obtain ⟨hmodel, hscore⟩ := hsame
    rw [List.mapM_cons, ih]
    unfold SpeakerPrototype.similarity
    rw [if_neg (not_not.mpr (hversion.trans hmodel.symm)), hscore e.vector hnorm]
    rfl

/-- The best score of an entry, if it has a prototype. -/
def bestScore (s : VoiceTables R V) (vector : V) (entry : RegistryEntry R V) :
    Option (R × RegistryEntry R V) :=
  ((s.under entry.identityId).map (fun x => cosine (R := R) x.vector vector)).max?.map
    (fun score => (score, entry))

theorem bestScore_eq_some {vector : V} {entry : RegistryEntry R V} {a : R × RegistryEntry R V} :
    bestScore s vector entry = some a
      ↔ a.2 = entry
        ∧ ((s.under entry.identityId).map (fun x => cosine (R := R) x.vector vector)).max?
          = some a.1 := by
  unfold bestScore
  rw [Option.map_eq_some_iff]
  constructor
  · rintro ⟨score, hmax, rfl⟩
    exact ⟨rfl, hmax⟩
  · rintro ⟨rfl, hmax⟩
    exact ⟨a.1, hmax, rfl⟩

/-- **What the entries score** is the best of the rows under their ids. -/
theorem mapM_scoreOf (h : RegistriesMirror tenantId modelVersion entries s)
    {e : SpeakerEmbedding R V} (hversion : e.modelVersion = modelVersion)
    (hnorm : EmbeddingSpace.norm (R := R) e.vector = 1) :
    entries.mapM (FakeVoiceRegistry.scoreOf e) = .ok (entries.map (bestScore s e.vector)) := by
  refine Method.mapM_of_ok (fun entry hentry => ?_)
  unfold FakeVoiceRegistry.scoreOf
  rw [similarities_eq (h.voices entry hentry) hversion hnorm]
  rfl

/-- **Both registries score the same identities** with the same scores. -/
theorem scores_perm (h : RegistriesMirror tenantId modelVersion entries s) (vector : V) :
    (bestScores (s.templates.filterMap (s.scoreOf vector))).Perm
      ((entries.filterMap (bestScore s vector)).map scoredEntry) := by
  have hkeys := nodup_bestScores (s.templates.filterMap (s.scoreOf vector))
  have hnodup : ((entries.filterMap (bestScore s vector)).map scoredEntry).Nodup := by
    refine List.pairwise_map.mpr (List.pairwise_filterMap.mpr ?_)
    refine (List.pairwise_map.mp h.nodup).imp (fun hne a ha b hb hsame => hne ?_)
    rw [← (bestScore_eq_some.mp ha).1, ← (bestScore_eq_some.mp hb).1]
    exact congrArg ScoredIdentity.identityId hsame
  refine (List.perm_ext_iff_of_nodup (hkeys.of_map _) hnodup).mpr (fun g => ?_)
  rw [mem_bestScores_iff, List.mem_map]
  constructor
  · intro hmax
    have hne : sameIdentity g (s.templates.filterMap (s.scoreOf vector)) ≠ [] := by
      intro hnil
      rw [hnil] at hmax
      cases hmax
    obtain ⟨row, hrow⟩ := List.exists_mem_of_ne_nil _ hne
    obtain ⟨hmem, hkey⟩ := List.mem_filter.mp hrow
    obtain ⟨x, hx, hscore⟩ := List.mem_filterMap.mp hmem
    obtain ⟨entry, hentry, hid, hscored⟩ := h.scoreOf vector hx
    rw [hscored, Option.some_inj] at hscore
    subst hscore
    obtain ⟨hgid, hgname⟩ := of_decide_eq_true hkey
    have hg : (⟨entry.identityId, some entry.displayName, g.score⟩ : ScoredIdentity R) = g := by
      cases g
      simp_all
    refine ⟨(g.score, entry), List.mem_filterMap.mpr ⟨entry, hentry, ?_⟩, hg⟩
    refine bestScore_eq_some.mpr ⟨rfl, ?_⟩
    rw [← hg, h.scores_eq vector hentry g.score (fun _ hx => hx)] at hmax
    exact hmax
  · rintro ⟨a, hscored, rfl⟩
    obtain ⟨entry, hentry, hbest⟩ := List.mem_filterMap.mp hscored
    obtain ⟨rfl, hmax⟩ := bestScore_eq_some.mp hbest
    exact (congrArg List.max? (h.scores_eq vector hentry a.1 (fun _ hx => hx))).trans hmax

end RegistriesMirror

namespace Registries

variable {registry : PgVectorVoiceRegistry R V} {tenantId : String}

/-- The rows of the best scores, in either order. -/
theorem decisions_agree {s : Registries R V} (h : s.Mirror registry tenantId)
    {e : SpeakerEmbedding R V} (hbest : ((s.tables.bestIdentities registry.pool e.vector tenantId
      registry.modelVersion).map ScoredIdentity.score).Nodup) (accept margin : R) :
    PgVectorVoiceRegistry.decision accept margin
        (s.tables.bestIdentities registry.pool e.vector tenantId registry.modelVersion)
      = FakeVoiceRegistry.decision accept margin
        (((s.entries tenantId).filterMap
          (RegistriesMirror.bestScore s.tables e.vector)).insertionSort
          (fun a b => b.1 ≤ a.1)) := by
  have hall : s.tables.templates.filter (fun x => x.tenantId = tenantId
      ∧ x.modelReleaseId = registry.modelVersion) = s.tables.templates :=
    List.filter_eq_self.mpr (fun x hx => decide_eq_true (h.owned x hx))
  unfold VoiceTables.bestIdentities at hbest ⊢
  rw [hall] at hbest ⊢
  have htotal : Std.Total (fun a b : R × RegistryEntry R V => b.1 ≤ a.1) :=
    ⟨fun a b => le_total b.1 a.1⟩
  have htrans : IsTrans (R × RegistryEntry R V) (fun a b => b.1 ≤ a.1) :=
    ⟨fun _ _ _ hab hbc => le_trans hbc hab⟩
  have hsorted := (registry.pool.orderByScore_perm (bestScores (s.tables.templates.filterMap
    (s.tables.scoreOf e.vector)))).trans (h.scores_perm e.vector)
  have hentries := List.pairwise_insertionSort (fun a b : R × RegistryEntry R V => b.1 ≤ a.1)
    ((s.entries tenantId).filterMap (RegistriesMirror.bestScore s.tables e.vector))
  have hperm := (List.perm_insertionSort (fun a b : R × RegistryEntry R V => b.1 ≤ a.1)
    ((s.entries tenantId).filterMap (RegistriesMirror.bestScore s.tables e.vector))).map scoredEntry
  obtain ⟨hhead, hscores⟩ := sorted_agree (hsorted.trans hperm.symm)
    (registry.pool.orderByScore_sorted _) (List.pairwise_map.mpr hentries)
    (fun g g' rest hrows hsame => by
      rw [hrows] at hbest
      simp [hsame] at hbest)
  rw [PgVectorVoiceRegistry.decision_take, FakeVoiceRegistry.decision_eq]
  exact PgVectorVoiceRegistry.decision_congr hhead hscores

/-- **A clip is identified alike.** -/
theorem identify_agrees {s : Registries R V} (h : s.Mirror registry tenantId)
    {e : SpeakerEmbedding R V} (hregular : s.Regular registry tenantId (.identify e)) :
    s.SameResult registry tenantId (.identify e) := by
  obtain ⟨hdimension, hnorm, hbest⟩ := hregular
  unfold SameResult returned PgVectorVoiceRegistry.program FakeVoiceRegistry.call
  dsimp only
  rw [Program.alone_map]
  refine congrArg VoiceResult.decision ?_
  unfold PgVectorVoiceRegistry.identify FakeVoiceRegistry.identify
  rw [show registry.inMemory.acceptThreshold = registry.acceptThreshold from rfl,
    show registry.inMemory.ambiguousMargin = registry.ambiguousMargin from rfl,
    show registry.inMemory.modelVersion = registry.modelVersion from rfl]
  cases registry.acceptThreshold with
  | none => rfl
  | some accept =>
    cases registry.ambiguousMargin with
    | none => rfl
    | some margin =>
      by_cases hversion : e.modelVersion = registry.modelVersion
      · have hliteral : registry.pool.toVectorLiteral e = .ok e.vector := by
          unfold VoiceDatabase.toVectorLiteral
          rw [if_neg (not_not.mpr hdimension)]
        dsimp only
        rw [if_neg (not_not.mpr hversion), if_neg (not_not.mpr hversion), hliteral,
          h.mapM_scoreOf hversion hnorm]
        refine congrArg Except.ok ((decisions_agree h hbest accept margin).trans ?_)
        rw [List.filterMap_map]
        rfl
      · dsimp only
        rw [if_pos hversion, if_pos hversion]
        rfl

/-- **One call**: if it is one of those the registries agree on, the books agree after
it, and the results. -/
theorem call_agrees [IsStrictOrderedRing R] (hlinear : LinearScores R V) {s : Registries R V}
    (h : s.Mirror registry tenantId) {e : VoiceCall R V} (hregular : s.Regular registry tenantId e)
    (hafresh : s.EnrollsAfresh registry tenantId e) :
    (s.call registry tenantId e).Mirror registry tenantId ∧ s.SameResult registry tenantId e := by
  cases e with
  | enroll identityId embeddings displayName consentRef newIds =>
    exact enroll_agrees hlinear h hregular hafresh
  | identify e =>
    refine ⟨?_, identify_agrees h hregular⟩
    unfold Mirror Registries.call PgVectorVoiceRegistry.call PgVectorVoiceRegistry.program
    dsimp only
    rw [Program.alone_map, PgVectorVoiceRegistry.alone_identify]
    exact h
  | deleteIdentity identityId =>
    obtain ⟨hmirror, hdeleted⟩ := h.deleteIdentity identityId
    refine ⟨?_, congrArg VoiceResult.deleted hdeleted⟩
    unfold Mirror Registries.call
    rw [PgVectorVoiceRegistry.call_deleteIdentity]
    unfold FakeVoiceRegistry.call FakeVoiceRegistry.deleteIdentity
    dsimp only
    rw [Function.update_self]
    exact hmirror
  | identityExists identityId =>
    refine ⟨h, congrArg VoiceResult.existence (Bool.eq_iff_iff.mpr ?_)⟩
    refine Iff.trans ?_ (h.exists_iff identityId).symm
    show ((s.tables.find tenantId identityId).filter (fun row => row.deletedAt = none)).isSome
      = true
      ↔ _
    rw [Option.isSome_iff_exists]
    exact exists_congr (fun row => Option.filter_eq_some_iff.trans
      (and_congr_right (fun _ => decide_eq_true_iff)))
  | prototypesOf identityId =>
    refine ⟨?_, True.intro⟩
    unfold Mirror Registries.call PgVectorVoiceRegistry.call PgVectorVoiceRegistry.program
    dsimp only
    rw [Program.alone_map, PgVectorVoiceRegistry.alone_prototypesOf]
    exact h

/-- **The registries agree** on the calls of a tenant, as long as each enrollment says
all there is to say. -/
theorem registries_agree [IsStrictOrderedRing R] (hlinear : LinearScores R V)
    (registry : PgVectorVoiceRegistry R V) (tenantId : String) (calls : List (VoiceCall R V))
    (hregular : EachStep (call registry tenantId) (Regular registry tenantId) {} calls)
    (hafresh : EachStep (call registry tenantId) (EnrollsAfresh registry tenantId) {} calls) :
    EachStep (call registry tenantId) (SameResult registry tenantId) {} calls := by
  have hmirror : Along (call registry tenantId) (Mirror registry tenantId) {} calls :=
    along_of_eachStep RegistriesMirror.empty
      (fun _ _ h hC => (call_agrees hlinear h hC.1 hC.2).1) (eachStep_and.mpr ⟨hregular, hafresh⟩)
  intro pre e hpre
  have hbefore := hmirror pre ((List.prefix_append pre [e]).trans hpre)
  exact (call_agrees hlinear hbefore (hregular pre e hpre) (hafresh pre e hpre)).2

/-! ### Three enrollments -/

instance (s : Registries ℚ ℚ) (e : VoiceCall ℚ ℚ) :
    Decidable (s.Regular PgVectorVoiceRegistry.lineRegistry "acme" e) := by
  unfold Regular
  split <;> infer_instance

instance (s : Registries ℚ ℚ) (e : VoiceCall ℚ ℚ) :
    Decidable (s.EnrollsAfresh PgVectorVoiceRegistry.lineRegistry "acme" e) := by
  unfold EnrollsAfresh
  split <;> infer_instance

theorem linearScores_line : LinearScores ℚ ℚ where
  dot_smul a v w := mul_assoc a v w
  norm_smul a v := abs_mul a v

/-- A clip is enrolled under a name, then another clip, and a voice is identified. -/
def enrolledAgain (again : Option String) (forward : Bool) : List (VoiceCall ℚ ℚ) :=
  [.enroll "emp_1" [PgVectorVoiceRegistry.lineClip true] (some "Alice") none
      (fun n => "vtpl_a" ++ toString n),
    .enroll "emp_1" [PgVectorVoiceRegistry.lineClip forward] again none
      (fun n => "vtpl_b" ++ toString n),
    .identify (PgVectorVoiceRegistry.lineClip true)]

/-- Two clips under one name. -/
theorem registries_agree_named :
    EachStep (call PgVectorVoiceRegistry.lineRegistry "acme")
      (SameResult PgVectorVoiceRegistry.lineRegistry "acme") {}
      (enrolledAgain (some "Alice") false) :=
  registries_agree linearScores_line PgVectorVoiceRegistry.lineRegistry "acme" _
    (by decide +kernel) (by decide +kernel)

/-- The number of prototypes that is reported, and the name that is told. -/
def toldBy : VoiceResult ℚ ℚ → Option ℕ × Option String
  | .report (.ok report) => (some report.prototypeCount, none)
  | .decision (.ok decision) => (none, decision.speakerName)
  | _ => (none, none)

/-- **The registries drift apart**: a clip that comes again is counted twice in memory,
and an enrollment without a name keeps the name in memory only. -/
theorem registries_drift :
    EachStep (call PgVectorVoiceRegistry.lineRegistry "acme")
        (Regular PgVectorVoiceRegistry.lineRegistry "acme") {}
        (enrolledAgain (some "Alice") true)
      ∧ ¬ EachStep (call PgVectorVoiceRegistry.lineRegistry "acme")
        (SameResult PgVectorVoiceRegistry.lineRegistry "acme") {}
        (enrolledAgain (some "Alice") true)
      ∧ EachStep (call PgVectorVoiceRegistry.lineRegistry "acme")
        (Regular PgVectorVoiceRegistry.lineRegistry "acme") {}
        (enrolledAgain none false)
      ∧ ¬ EachStep (call PgVectorVoiceRegistry.lineRegistry "acme")
        (SameResult PgVectorVoiceRegistry.lineRegistry "acme") {}
        (enrolledAgain none false) := by
  refine ⟨by decide +kernel, fun h => ?_, by decide +kernel, fun h => ?_⟩
  · have hreport := (eachStep_cons.mp (eachStep_cons.mp h).2).1
    exact absurd (congrArg toldBy hreport) (by decide +kernel)
  · have hdecision := (eachStep_cons.mp (eachStep_cons.mp (eachStep_cons.mp h).2).2).1
    exact absurd (congrArg toldBy hdecision) (by decide +kernel)

end Registries

end Sastt
