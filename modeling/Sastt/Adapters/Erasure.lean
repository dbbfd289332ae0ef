import Sastt.Adapters.TenantIsolation

/-!
# Erasing a voice

`delete_identity` deletes the row of an identity that is the tenant's, and the
templates go with the row, whoever they belong to. `enroll` stores templates of
a tenant under the row of another that has the id already. The two together:
what a tenant has stored under a foreign row it cannot delete
(`foreign_templates_stay`), and it loses it when the other deletes the row.

Erasure is complete exactly as long as each deletion finds templates under the
id that belong to the tenant of the row (`erasure_complete_iff`).
-/

namespace Sastt

variable {R V : Type} [Field R] [LinearOrder R] [AddCommGroup V] [Module R V] [EmbeddingSpace R V]

namespace VoiceTables

variable {s : VoiceTables R V} {tenantId identityId : String}

/-- **Nothing of the tenant's is stored under the id.** -/
def NoneStored (tenantId identityId : String) (s : VoiceTables R V) : Prop :=
  ∀ x ∈ s.templates, x.tenantId = tenantId → x.identityId ≠ identityId

instance : Decidable (s.NoneStored tenantId identityId) :=
  inferInstanceAs (Decidable (∀ x ∈ _, _ → _))

/-- **What a deletion by the tenant reaches is its own**: a template under the id
belongs to the tenant of the row, if either of them is the tenant's. -/
def OwnTemplates (tenantId identityId : String) (s : VoiceTables R V) : Prop :=
  ∀ x ∈ s.templates, x.identityId = identityId → ∀ row ∈ s.identities identityId,
    x.tenantId = tenantId ∨ row.tenantId = tenantId → x.tenantId = row.tenantId

instance : Decidable (s.OwnTemplates tenantId identityId) :=
  inferInstanceAs (Decidable (∀ x ∈ _, _ → ∀ row ∈ _, _ → _))

/-- The templates of other tenants are still there. -/
def KeepsOthers (tenantId : String) (s s' : VoiceTables R V) : Prop :=
  ∀ x ∈ s.templates, x.tenantId ≠ tenantId → x ∈ s'.templates

/-- **A deletion is complete, and takes nothing of others, exactly if what it
reaches is the tenant's own.** -/
theorem deleteIdentity_complete_iff (s : VoiceTables R V) (tenantId identityId : String) :
    ((s.deleteIdentity tenantId identityId).1.NoneStored tenantId identityId
        ∧ KeepsOthers tenantId s (s.deleteIdentity tenantId identityId).1)
      ↔ s.OwnTemplates tenantId identityId := by
  rcases s.deleteIdentity_cases tenantId identityId
    with ⟨hnone, hdelete⟩ | ⟨row, s', hrow, htenant, hdelete, -, htemplates⟩
  · have hforeign : ∀ row ∈ s.identities identityId, row.tenantId ≠ tenantId := by
      intro row hrow htenant
      have hfind := Option.filter_eq_none_iff.mp hnone row hrow
      simp [htenant] at hfind
    rw [hdelete]
    constructor
    · rintro ⟨hnone, -⟩ x hx hid row hrow (hown | hown)
      · exact absurd hid (hnone x hx hown)
      · exact absurd hown (hforeign row hrow)
    · refine fun hown => ⟨fun x hx htenant hid => ?_, fun _ hx _ => hx⟩
      obtain ⟨row, hrow⟩ := Option.isSome_iff_exists.mp (s.references x hx)
      rw [hid] at hrow
      exact hforeign row hrow ((hown x hx hid row hrow (Or.inl htenant)).symm.trans htenant)
  · rw [hdelete]
    constructor
    · rintro ⟨-, hkeeps⟩ x hx hid row' hrow' -
      rw [hrow] at hrow'
      cases hrow'
      rw [htenant]
      by_contra hne
      have hkept := hkeeps x hx hne
      rw [htemplates, List.mem_filter] at hkept
      simp [hid] at hkept
    · refine fun hown => ⟨fun x hx _ => ?_, fun x hx hne => ?_⟩
      · rw [htemplates, List.mem_filter] at hx
        simpa using hx.2
      · rw [htemplates, List.mem_filter]
        refine ⟨hx, decide_eq_true (fun hid => hne ?_)⟩
        rw [hown x hx hid row hrow (Or.inr htenant), htenant]

/-- What an insert can add. -/
theorem mem_insertTemplate {s' : VoiceTables R V} {x y : VoiceTemplate R V}
    (h : s.insertTemplate x = .ok s') (hy : y ∈ s'.templates) : y ∈ s.templates ∨ y = x := by
  unfold insertTemplate at h
  split_ifs at h
  · cases h
    exact Or.inl hy
  · cases h
    exact (List.mem_append.mp hy).imp_right List.mem_singleton.mp

/-- **`enroll` stores under its own tenant and id.** -/
theorem mem_insertClips {db : VoiceDatabase R V} {clips : List (String × SpeakerEmbedding R V)}
    {s' : VoiceTables R V} {y : VoiceTemplate R V}
    (h : s.insertClips db tenantId identityId clips = .ok s') (hy : y ∈ s'.templates) :
    y ∈ s.templates ∨ (y.tenantId = tenantId ∧ y.identityId = identityId) := by
  induction clips generalizing s with
  | nil =>
    cases h
    exact Or.inl hy
  | cons clip clips ih =>
    unfold insertClips at h
    cases hclip : s.insertClip db tenantId identityId clip with
    | error e =>
      rw [hclip] at h
      cases h
    | ok t =>
      rw [hclip] at h
      cases ih h with
      | inr hnew => exact Or.inr hnew
      | inl hold =>
        unfold insertClip at hclip
        split at hclip
        · cases hclip
        · cases mem_insertTemplate hclip hold with
          | inl hold => exact Or.inl hold
          | inr hnew =>
            subst hnew
            exact Or.inr ⟨rfl, rfl⟩

/-! ## What a tenant is answered -/

omit [Field R] in
theorem mem_bestScores {rows : List (ScoredIdentity R)} {g : ScoredIdentity R}
    (h : g ∈ bestScores rows) : ∃ row ∈ rows, row.identityId = g.identityId := by
  induction rows generalizing g with
  | nil => exact absurd h List.not_mem_nil
  | cons row rows ih =>
    have hrest : ∀ g ∈ bestScores rows, ∃ r ∈ row :: rows, r.identityId = g.identityId := by
      intro g hg
      obtain ⟨r, hr, hid⟩ := ih hg
      exact ⟨r, List.mem_cons_of_mem row hr, hid⟩
    unfold bestScores at h
    dsimp only at h
    split at h
    · obtain ⟨g', hg', rfl⟩ := List.mem_map.mp h
      obtain ⟨r, hr, hid⟩ := hrest g' hg'
      refine ⟨r, hr, hid.trans ?_⟩
      split <;> rfl
    · cases List.mem_cons.mp h with
      | inl hg => exact ⟨row, List.mem_cons_self, congrArg _ hg.symm⟩
      | inr hg => exact hrest g hg

/-- The identities that are scored are those of the tenant's templates. -/
theorem mem_bestIdentities {db : VoiceDatabase R V} {vector : V} {modelVersion : String}
    {g : ScoredIdentity R} (h : g ∈ s.bestIdentities db vector tenantId modelVersion) :
    ∃ x ∈ s.templates, x.tenantId = tenantId ∧ x.identityId = g.identityId := by
  have hbest := (db.orderByScore_perm _).mem_iff.mp (List.mem_of_mem_take h)
  obtain ⟨row, hrow, hid⟩ := mem_bestScores hbest
  obtain ⟨x, hx, hscore⟩ := List.mem_filterMap.mp hrow
  obtain ⟨hmem, hof⟩ := List.mem_filter.mp hx
  obtain ⟨_, -, rfl⟩ := Option.map_eq_some_iff.mp hscore
  exact ⟨x, hmem, (of_decide_eq_true hof).1, hid⟩

end VoiceTables

namespace PgVectorVoiceRegistry

variable (registry : PgVectorVoiceRegistry R V)

/-- What a decision names is the best of the identities that were scored. -/
theorem registrySpeakerId_decision {accept margin : R} {rows : List (ScoredIdentity R)}
    {identityId : String} (h : (decision accept margin rows).registrySpeakerId = some identityId) :
    ∃ row ∈ rows, row.identityId = identityId := by
  cases rows with
  | nil => cases h
  | cons best rest =>
    unfold decision at h
    dsimp only at h
    split at h
    · cases h
    · split at h
      · cases h
      · exact ⟨best, List.mem_cons_self, Option.some.inj h⟩

/-! ## One call after another -/

/-- **One call**, with no other at work. -/
def call (s : VoiceTables R V) (e : VoiceClient × VoiceCall R V) : VoiceTables R V :=
  ((registry.program e.1 e.2).alone (VoiceTables.execute registry.pool) s).2

/-- What `identify` returns. -/
def identified (s : VoiceTables R V) (tenantId : String) (e : SpeakerEmbedding R V) :
    Except PyError (VoiceIdDecision R) :=
  ((registry.identify tenantId e).alone (VoiceTables.execute registry.pool) s).1

/-- **The tenant is not answered with the id**, nor is a clip of its scored against
what it has stored under it. -/
def Forgotten (tenantId identityId : String) (s : VoiceTables R V) : Prop :=
  s.NoneStored tenantId identityId
    ∧ ∀ e d, registry.identified s tenantId e = .ok d → d.registrySpeakerId ≠ some identityId

theorem forgotten_of_noneStored {s : VoiceTables R V} {tenantId identityId : String}
    (h : s.NoneStored tenantId identityId) : registry.Forgotten tenantId identityId s := by
  refine ⟨h, fun e d hd hid => ?_⟩
  unfold identified identify at hd
  split at hd
  · next accept margin _ _ =>
    split at hd
    · cases hd
      cases hid
    · split at hd
      · cases hd
      · next vector _ =>
        cases hd
        obtain ⟨row, hrow, rfl⟩ := registrySpeakerId_decision hid
        obtain ⟨x, hx, htenant, hxid⟩ := VoiceTables.mem_bestIdentities hrow
        exact h x hx htenant hxid
  · cases hd
    cases hid

/-- The call enrolls the identity for the tenant. -/
def Enrolls (tenantId identityId : String) (e : VoiceClient × VoiceCall R V) : Prop :=
  e.1.tenantId = tenantId
    ∧ ∃ embeddings displayName consentRef newIds,
      e.2 = .enroll identityId embeddings displayName consentRef newIds

/-- `identify` only reads. -/
@[simp] theorem alone_identify (s : VoiceTables R V) (tenantId : String)
(e : SpeakerEmbedding R V) :
    ((registry.identify tenantId e).alone (VoiceTables.execute registry.pool) s).2 = s := by
  unfold identify
  split
  · split
    · rfl
    · split
      · rfl
      · rfl
  · rfl

/-- So does `prototypes_of`. -/
@[simp] theorem alone_prototypesOf (s : VoiceTables R V) (tenantId identityId : String) :
    ((registry.prototypesOf tenantId identityId).alone (VoiceTables.execute registry.pool) s).2
      = s := by
  unfold prototypesOf
  rw [Program.alone_bind]
  split <;> rfl

/-- The clips `enroll` accepts, with the ids drawn for them. -/
def acceptedClips (embeddings : List (SpeakerEmbedding R V)) (newIds : ℕ → String) :
    List (String × SpeakerEmbedding R V) :=
  (embeddings.filter (fun e => (registry.clipReasons e).isEmpty)).zipIdx.map
    (fun clip => (newIds clip.2, clip.1))

/-- `enroll` is one transaction. -/
theorem call_enroll (s : VoiceTables R V) (c : VoiceClient) (identityId : String)
    (embeddings : List (SpeakerEmbedding R V)) (displayName consentRef : Option String)
    (newIds : ℕ → String) :
    registry.call s (c, .enroll identityId embeddings displayName consentRef newIds)
      = (s.execute registry.pool (.enroll c.tenantId identityId (orDefault displayName identityId)
        (orDefault consentRef "unspecified") registry.modelVersion
        (registry.acceptedClips embeddings newIds))).1 := by
  unfold PgVectorVoiceRegistry.call program
  dsimp only
  rw [Program.alone_map]
  unfold enroll
  dsimp only
  rw [Program.alone_bind, Program.alone_issue]
  split <;> rfl

/-- What a deletion leaves. -/
theorem call_deleteIdentity (s : VoiceTables R V) (c : VoiceClient) (identityId : String) :
    registry.call s (c, .deleteIdentity identityId)
      = (s.deleteIdentity c.tenantId identityId).1 := rfl

/-- What is stored after a call: nothing is new unless the call enrolls. -/
theorem mem_call {s : VoiceTables R V} {e : VoiceClient × VoiceCall R V} {x : VoiceTemplate R V}
    (h : x ∈ (registry.call s e).templates) :
    x ∈ s.templates ∨ Enrolls x.tenantId x.identityId e := by
  obtain ⟨c, call⟩ := e
  cases call with
  | enroll identityId embeddings displayName consentRef newIds =>
    rw [call_enroll] at h
    unfold VoiceTables.execute at h
    dsimp only at h
    split at h
    · exact Or.inl h
    · next s' hclips =>
      refine (VoiceTables.mem_insertClips hclips h).imp (fun hx => ?_) ?_
      · rwa [VoiceTables.upsertIdentity_templates] at hx
      · rintro ⟨htenant, hid⟩
        subst hid
        exact ⟨htenant.symm, embeddings, displayName, consentRef, newIds, rfl⟩
  | identify e =>
    unfold PgVectorVoiceRegistry.call program at h
    dsimp only at h
    rw [Program.alone_map, alone_identify] at h
    exact Or.inl h
  | deleteIdentity identityId =>
    refine Or.inl ?_
    replace h : x ∈ (s.deleteIdentity c.tenantId identityId).1.templates := h
    rcases s.deleteIdentity_cases c.tenantId identityId
      with ⟨-, hdelete⟩ | ⟨_, s', -, -, hdelete, -, htemplates⟩
    · rwa [hdelete] at h
    · rw [hdelete, htemplates] at h
      exact List.mem_of_mem_filter h
  | identityExists identityId => exact Or.inl h
  | prototypesOf identityId =>
    unfold PgVectorVoiceRegistry.call program at h
    dsimp only at h
    rw [Program.alone_map, alone_prototypesOf] at h
    exact Or.inl h

/-- **Nothing of a tenant's comes back under an id** by a call that does not enroll
it. -/
theorem noneStored_call {s : VoiceTables R V} {e : VoiceClient × VoiceCall R V}
    {tenantId identityId : String} (h : s.NoneStored tenantId identityId)
    (he : ¬ Enrolls tenantId identityId e) :
    (registry.call s e).NoneStored tenantId identityId := by
  intro x hx htenant hid
  cases registry.mem_call hx with
  | inl hold => exact h x hold htenant hid
  | inr hnew => exact he (htenant ▸ hid ▸ hnew)

theorem noneStored_calls {s : VoiceTables R V} {calls : List (VoiceClient × VoiceCall R V)}
    {tenantId identityId : String} (h : s.NoneStored tenantId identityId)
    (hcalls : ∀ e ∈ calls, ¬ Enrolls tenantId identityId e) :
    (calls.foldl registry.call s).NoneStored tenantId identityId := by
  induction calls generalizing s with
  | nil => exact h
  | cons e calls ih =>
    obtain ⟨hfirst, hrest⟩ := List.forall_mem_cons.mp hcalls
    exact ih (registry.noneStored_call h hfirst) hrest

/-! ## Runs -/

/-- **After a deletion, and until the tenant enrolls the id again**, the id is
forgotten. -/
def ForgetsUntilEnrolled (calls : List (VoiceClient × VoiceCall R V)) : Prop :=
  ∀ pre c identityId later, pre ++ (c, .deleteIdentity identityId) :: later <+: calls →
    (∀ e ∈ later, ¬ Enrolls c.tenantId identityId e) →
      registry.Forgotten c.tenantId identityId
        ((pre ++ (c, .deleteIdentity identityId) :: later).foldl registry.call VoiceTables.empty)

/-- If the call deletes, the templates of other tenants are still there. -/
def DeletesOwn (s : VoiceTables R V) (e : VoiceClient × VoiceCall R V) : Prop :=
  match e.2 with
  | .deleteIdentity _ => VoiceTables.KeepsOthers e.1.tenantId s (registry.call s e)
  | _ => True

/-- If the call deletes, what it reaches is the tenant's own. -/
def ReachesOwn (s : VoiceTables R V) (e : VoiceClient × VoiceCall R V) : Prop :=
  match e.2 with
  | .deleteIdentity identityId => s.OwnTemplates e.1.tenantId identityId
  | _ => True

instance (s : VoiceTables R V) (e : VoiceClient × VoiceCall R V) : Decidable (ReachesOwn s e) := by
  unfold ReachesOwn
  split <;> infer_instance

/-- **Erasure is complete in a run exactly if each deletion reaches templates of its
own tenant**: under the id that is deleted, no template of one tenant hangs on the
row of another. -/
theorem erasure_complete_iff (calls : List (VoiceClient × VoiceCall R V)) :
    (registry.ForgetsUntilEnrolled calls
        ∧ EachStep registry.call registry.DeletesOwn VoiceTables.empty calls)
      ↔ EachStep registry.call ReachesOwn VoiceTables.empty calls := by
  constructor
  · rintro ⟨hforgets, hothers⟩ pre ⟨c, call⟩ hpre
    cases call with
    | deleteIdentity identityId =>
      have hnone := (hforgets pre c identityId [] hpre nofun).1
      rw [List.foldl_append] at hnone
      exact (VoiceTables.deleteIdentity_complete_iff _ _ _).mp ⟨hnone, hothers pre _ hpre⟩
    | _ => exact True.intro
  · intro hown
    have hdelete : ∀ pre c identityId, pre ++ [(c, .deleteIdentity identityId)] <+: calls →
        (registry.call (pre.foldl registry.call VoiceTables.empty)
            (c, .deleteIdentity identityId)).NoneStored c.tenantId identityId
          ∧ VoiceTables.KeepsOthers c.tenantId (pre.foldl registry.call VoiceTables.empty)
            (registry.call (pre.foldl registry.call VoiceTables.empty)
              (c, .deleteIdentity identityId)) :=
      fun pre c identityId hpre =>
        (VoiceTables.deleteIdentity_complete_iff _ _ _).mpr (hown pre _ hpre)
    constructor
    · intro pre c identityId later hpre hlater
      refine registry.forgotten_of_noneStored ?_
      rw [List.foldl_append, List.foldl_cons]
      refine registry.noneStored_calls (hdelete pre c identityId ?_).1 hlater
      exact List.IsPrefix.trans ⟨later, by simp⟩ hpre
    · rintro pre ⟨c, call⟩ hpre
      cases call with
      | deleteIdentity identityId => exact (hdelete pre c identityId hpre).2
      | _ => exact True.intro

/-- Two tenants enroll under one id, and the second deletes it. -/
def deletedEnrollments : List (VoiceClient × VoiceCall ℚ ℚ) :=
  [(⟨"acme", 0⟩, .enroll "emp_1" [lineClip false] (some "Alice") none
      (fun n => "vtpl_a" ++ toString n)),
    (⟨"bolt", 0⟩, .enroll "emp_1" [lineClip true] (some "Bob") none
      (fun n => "vtpl_b" ++ toString n)),
    (⟨"bolt", 0⟩, .deleteIdentity "emp_1")]

/-- **Templates under a foreign row stay**: the second tenant deletes the identity,
and its voice is still identified under the id. And the first would delete the
template of the second. -/
theorem foreign_templates_stay :
    ¬ lineRegistry.ForgetsUntilEnrolled deletedEnrollments
      ∧ ¬ EachStep lineRegistry.call lineRegistry.DeletesOwn VoiceTables.empty
        (deletedEnrollments ++ [(⟨"acme", 0⟩, .deleteIdentity "emp_1")]) := by
  constructor
  · intro h
    have hforgotten := h (deletedEnrollments.take 2) ⟨"bolt", 0⟩ "emp_1" [] (List.prefix_refl _)
      nofun
    exact absurd hforgotten.1 (by decide +kernel)
  · intro h
    have hkeeps := h deletedEnrollments (⟨"acme", 0⟩, .deleteIdentity "emp_1") (List.prefix_refl _)
    have hstored : ∃ x ∈ (deletedEnrollments.foldl lineRegistry.call VoiceTables.empty).templates,
        x.tenantId ≠ "acme" := by decide +kernel
    obtain ⟨x, hx, hbolt⟩ := hstored
    have hgone : (lineRegistry.call (deletedEnrollments.foldl lineRegistry.call VoiceTables.empty)
        (⟨"acme", 0⟩, .deleteIdentity "emp_1")).templates.length = 0 := by decide +kernel
    have hlost := hkeeps x hx hbolt
    rw [List.length_eq_zero_iff.mp hgone] at hlost
    exact absurd hlost List.not_mem_nil

end PgVectorVoiceRegistry

end Sastt
